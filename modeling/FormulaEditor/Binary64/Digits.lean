import FormulaEditor.Binary64.Basic
import FormulaEditor.Decimal.Notation

/-! # Choosing a decimal for a binary number

Two choices: the decimal with the fewest digits that reads back as the number, and the decimal with
a given number of digits that is nearest to it. The reals that read back as a number lie between the
midpoints to its neighbours, the midpoints included when the mantissa is even. Numbers are written
by the first choice in full, and by the second in brief, with at most twelve digits.
-/

namespace FormulaEditor.Binary64

/-! ## Decimals that read back -/

/-- The decimal is above `n * 2 ^ exponent`, or equal to it when the end is `closed`. -/
def liesAbove (closed : Bool) (n : Nat) (exponent : Int) (d : Decimal) : Bool :=
  let bound := n * powerNum 2 exponent * powerDen 10 d.exponent
  let value := d.digits * powerNum 10 d.exponent * powerDen 2 exponent
  if closed then decide (bound ≤ value) else decide (bound < value)

/-- The decimal is below `n * 2 ^ exponent`, or equal to it when the end is `closed`. -/
def liesBelow (closed : Bool) (n : Nat) (exponent : Int) (d : Decimal) : Bool :=
  !liesAbove (!closed) n exponent d

/-- The decimal reads back as the positive number `mantissa * 2 ^ exponent`. Below a power of two
the neighbour is half as far away as above. -/
def readsBack (mantissa : Nat) (exponent : Int) (d : Decimal) : Bool :=
  let narrow := mantissa == fullMantissa && decide (leastExponent < exponent)
  let closed := mantissa % 2 == 0
  liesAbove closed (4 * mantissa - if narrow then 1 else 2) (exponent - 2) d &&
    liesBelow closed (4 * mantissa + 2) (exponent - 2) d

/-! ## Decimal grids -/

/-- The number `mantissa * 2 ^ exponent` in units of `10 ^ scale`, as a quotient. -/
def inUnits (mantissa : Nat) (exponent scale : Int) : Nat × Nat :=
  (mantissa * powerNum 2 exponent * powerDen 10 scale, powerDen 2 exponent * powerNum 10 scale)

/-- The decimal on the grid of `10 ^ scale` that is nearest to `mantissa * 2 ^ exponent`. -/
def nearestOnGrid (mantissa : Nat) (exponent scale : Int) : Decimal :=
  let (num, den) := inUnits mantissa exponent scale
  ⟨roundQuotient num den, scale⟩

/-- The neighbour on the grid of `10 ^ scale` that reads back; of two the nearer, and of two equally
near ones the even one. -/
def readsBackOnGrid? (mantissa : Nat) (exponent scale : Int) : Option Decimal :=
  let (num, den) := inUnits mantissa exponent scale
  let below : Decimal := ⟨num / den, scale⟩
  let above : Decimal := ⟨num / den + 1, scale⟩
  match readsBack mantissa exponent below, readsBack mantissa exponent above with
  | true, true => some (nearestOnGrid mantissa exponent scale)
  | true, false => some below
  | false, true => some above
  | false, false => none

/-- The scale of the grid on which `mantissa * 2 ^ exponent` has the given number of digits. -/
def scaleFor (digits : Nat) (mantissa : Nat) (exponent : Int) : Int :=
  let (num, den) := inUnits mantissa exponent 0
  decimalExponent num den - digits + 1

/-! ## The two choices -/

/-- The nearest decimal with the given number of digits. -/
def roundedTo (digits : Nat) (mantissa : Nat) (exponent : Int) : Decimal :=
  nearestOnGrid mantissa exponent (scaleFor digits mantissa exponent)

/-- The decimal with the fewest digits that reads back; seventeen digits always suffice. -/
def shortest (mantissa : Nat) (exponent : Int) : Decimal :=
  let scale := scaleFor 1 mantissa exponent
  let found := (List.range 17).findSome? fun (more : Nat) =>
    readsBackOnGrid? mantissa exponent (scale - more)
  found.getD (roundedTo 17 mantissa exponent)

/-- The exact value of the shortest decimal that reads back, for a finite number. -/
def shortestRat? : Binary64 → Option Rat
  | .finite negative mantissa exponent =>
    let value := if mantissa = 0 then 0 else (shortest mantissa exponent).toRat
    some (if negative then -value else value)
  | _ => none

/-! ## Texts -/

/-- Numbers in full are positional from 0.0001 to below 10^16 and keep a point. -/
def fullNotation : Decimal.Notation := ⟨-4, 16, true⟩

/-- Numbers in brief are positional from 0.0001 to below 10^12, whole ones without a point. -/
def briefNotation : Decimal.Notation := ⟨-4, 12, false⟩

/-- The text of a number in a notation, `choose` giving the decimal for a positive one. -/
def textWith (style : Decimal.Notation) (choose : Nat → Int → Decimal) : Binary64 → String
  | .nan => "nan"
  | .infinity negative => if negative then "-inf" else "inf"
  | .finite negative mantissa exponent =>
    let digits :=
      if mantissa = 0 then Decimal.positional style.pointZero ['0'] 0
      else Decimal.render style (choose mantissa exponent)
    String.ofList (if negative then '-' :: digits else digits)

def text : Binary64 → String := textWith fullNotation shortest

def brief : Binary64 → String := textWith briefNotation (roundedTo 12)

end FormulaEditor.Binary64
