import FormulaEditor.Decimal.Quotient

/-! # Binary floating-point numbers

A binary64 number is kept as what it stands for: a sign, a mantissa and an exponent of two, or an
infinity, or not a number. Each operation takes the exact result and rounds it once, to nearest with
halves to even. A finite number has one representation that rounding produces, `IsCanonical`: the
mantissa has 53 bits, or fewer at the least exponent.
-/

namespace FormulaEditor

/-- A binary floating-point number; a finite one is `± mantissa * 2 ^ exponent`. -/
inductive Binary64 where
  | nan
  | infinity (negative : Bool)
  | finite (negative : Bool) (mantissa : Nat) (exponent : Int)
  deriving DecidableEq, Repr, Inhabited

namespace Binary64

/-! ## Representation -/

/-- The number of bits of a full mantissa. -/
def precision : Nat := 53

/-- The least mantissa of that many bits. -/
def fullMantissa : Nat := 0x10000000000000

/-- The least natural of one bit more. -/
def mantissaBound : Nat := 0x20000000000000

def leastExponent : Int := -1074

def greatestExponent : Int := 971

/-- The one representation of each finite number. -/
def IsCanonical : Binary64 → Prop
  | .finite _ mantissa exponent =>
    mantissa < mantissaBound ∧ leastExponent ≤ exponent ∧ exponent ≤ greatestExponent ∧
      (fullMantissa ≤ mantissa ∨ exponent = leastExponent)
  | _ => True

/-- The number is neither infinite nor undefined. -/
def isFinite : Binary64 → Bool
  | .finite .. => true
  | _ => false

def zero (negative : Bool) : Binary64 := .finite negative 0 leastExponent

def one : Binary64 := .finite false fullMantissa (-52)

/-- The number is zero, of either sign. -/
def isZero : Binary64 → Bool
  | .finite _ mantissa _ => mantissa == 0
  | _ => false

def isBelowZero : Binary64 → Bool
  | .nan => false
  | .infinity negative => negative
  | .finite negative mantissa _ => negative && mantissa != 0

def signed (negative : Bool) (mantissa : Nat) : Int :=
  if negative then -(mantissa : Int) else mantissa

/-- The exact value of a finite number. -/
def toRat? : Binary64 → Option Rat
  | .finite negative mantissa exponent =>
    some (mkRat (signed negative (mantissa * powerNum 2 exponent)) (powerDen 2 exponent))
  | _ => none

/-! ## Rounding -/

/-- The number with a mantissa that may have reached one bit too many, or an exponent that is too
great. -/
def normalized (negative : Bool) (mantissa : Nat) (exponent : Int) : Binary64 :=
  -- Rounding up a full mantissa gives a power of two.
  if mantissa = mantissaBound then
    if exponent < greatestExponent then .finite negative fullMantissa (exponent + 1)
    else .infinity negative
  else if exponent ≤ greatestExponent then .finite negative mantissa exponent
  else .infinity negative

/-- The number nearest to `± num / den`, halves to even; beyond the greatest finite number it is
infinite. -/
def nearest (negative : Bool) (num den : Nat) : Binary64 :=
  if num = 0 then zero negative
  else
    let exponent := max (binaryExponent num den - (precision - 1)) leastExponent
    normalized negative
      (roundQuotient (num * powerDen 2 exponent) (den * powerNum 2 exponent)) exponent

def nearestScaled (negative : Bool) (n : Nat) (exponent : Int) : Binary64 :=
  nearest negative (n * powerNum 2 exponent) (powerDen 2 exponent)

def ofRat (r : Rat) : Binary64 := nearest (decide (r.num < 0)) r.num.natAbs r.den

/-! ## Arithmetic -/

/-- The number with the other sign. -/
def neg : Binary64 → Binary64
  | .nan => .nan
  | .infinity negative => .infinity !negative
  | .finite negative mantissa exponent => .finite (!negative) mantissa exponent

/-- The number without its sign. -/
def abs : Binary64 → Binary64
  | .nan => .nan
  | .infinity _ => .infinity false
  | .finite _ mantissa exponent => .finite false mantissa exponent

/-- The sum. Opposite numbers add up to a positive zero, and two negative zeros to a negative
one. -/
def add : Binary64 → Binary64 → Binary64
  | .nan, _ => .nan
  | _, .nan => .nan
  | .infinity a, .infinity b => if a = b then .infinity a else .nan
  | .infinity a, .finite .. => .infinity a
  | .finite .., .infinity b => .infinity b
  | .finite a m p, .finite b n q =>
    -- On the smaller exponent both are whole, and the sum is exact.
    let exponent := min p q
    let sum := signed a (m * powerNum 2 (p - exponent)) + signed b (n * powerNum 2 (q - exponent))
    if sum = 0 then zero (a && b)
    else nearestScaled (decide (sum < 0)) sum.natAbs exponent

def sub (x y : Binary64) : Binary64 := x.add y.neg

def mul : Binary64 → Binary64 → Binary64
  | .nan, _ => .nan
  | _, .nan => .nan
  | .infinity a, .infinity b => .infinity (a ^^ b)
  | .infinity a, .finite b n _ => if n = 0 then .nan else .infinity (a ^^ b)
  | .finite a m _, .infinity b => if m = 0 then .nan else .infinity (a ^^ b)
  | .finite a m p, .finite b n q => nearestScaled (a ^^ b) (m * n) (p + q)

def div : Binary64 → Binary64 → Binary64
  | .nan, _ => .nan
  | _, .nan => .nan
  | .infinity _, .infinity _ => .nan
  | .infinity a, .finite b _ _ => .infinity (a ^^ b)
  | .finite a _ _, .infinity b => zero (a ^^ b)
  | .finite a m p, .finite b n q =>
    if n = 0 then if m = 0 then .nan else .infinity (a ^^ b)
    else nearest (a ^^ b) (m * powerNum 2 (p - q)) (n * powerDen 2 (p - q))

/-! ## Whole numbers -/

/-- The number has no fractional part. -/
def isWhole : Binary64 → Bool
  | .finite _ mantissa exponent =>
    decide (0 ≤ exponent) || mantissa % powerDen 2 exponent == 0
  | _ => false

/-- The number is an odd whole number. -/
def isOdd : Binary64 → Bool
  | .finite _ mantissa exponent =>
    if 0 < exponent then false
    else mantissa % powerDen 2 exponent == 0 && mantissa / powerDen 2 exponent % 2 == 1
  | _ => false

/-- The value of a whole number. -/
def toInt? (x : Binary64) : Option Int :=
  match x with
  | .finite negative mantissa exponent =>
    if x.isWhole then
      some (signed negative (mantissa * powerNum 2 exponent / powerDen 2 exponent))
    else none
  | _ => none

end Binary64

end FormulaEditor
