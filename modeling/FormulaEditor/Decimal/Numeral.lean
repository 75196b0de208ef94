import FormulaEditor.Binary64.Basic
import FormulaEditor.Decimal.Notation
import FormulaEditor.Text.Basic

/-! # Decimal numerals

A numeral is a sign, digits with an optional point among, before or after them, and an optional
signed exponent. Which characters are digits is a parameter: the ten plain ones, or those of every
script. What a numeral denotes is a whole number when it has neither point nor exponent, and can
always be rounded to a binary number.
-/

namespace FormulaEditor

/-- A numeral, taken apart. -/
structure Numeral where
  negative : Bool
  /-- the digits before the point -/
  whole : List Nat
  /-- the digits behind the point, when there is a point -/
  fraction : Option (List Nat)
  /-- the exponent of ten, when one is given -/
  exponent : Option Int
  deriving DecidableEq, Repr

namespace Numeral

/-! ## Reading -/

/-- The longest row of digits in front, and the rest. -/
def takeDigits (digit? : Char → Option Nat) : List Char → List Nat × List Char
  | [] => ([], [])
  | c :: rest =>
    match digit? c with
    | some d => (d :: (takeDigits digit? rest).1, (takeDigits digit? rest).2)
    | none => ([], c :: rest)

/-- A sign in front, if there is one, and the rest; the flag tells a minus. -/
def takeSign : List Char → Bool × List Char
  | '+' :: rest => (false, rest)
  | '-' :: rest => (true, rest)
  | rest => (false, rest)

/-- The natural that a row of digits denotes in base ten. -/
def ofDigits (digits : List Nat) : Nat := digits.foldl (fun n d => 10 * n + d) 0

def withSign (negative : Bool) (n : Nat) : Int := if negative then -(n : Int) else n

/-- A point and the digits behind it, when there is a point. -/
def takeFraction (digit? : Char → Option Nat) : List Char → Option (List Nat) × List Char
  | '.' :: rest => (some (takeDigits digit? rest).1, (takeDigits digit? rest).2)
  | rest => (none, rest)

/-- The exponent that the whole of a text gives: none when the text is empty. -/
def readExponent? (digit? : Char → Option Nat) : List Char → Option (Option Int)
  | [] => some none
  | c :: rest =>
    if c = 'e' ∨ c = 'E' then
      match takeDigits digit? (takeSign rest).2 with
      | (d :: digits, []) => some (some (withSign (takeSign rest).1 (ofDigits (d :: digits))))
      | _ => none
    else none

/-- The numeral that a whole text is. At least one digit stands beside the point. -/
def read? (digit? : Char → Option Nat) (s : List Char) : Option Numeral :=
  let (negative, unsigned) := takeSign s
  let (whole, behind) := takeDigits digit? unsigned
  let (fraction, rest) := takeFraction digit? behind
  if whole.isEmpty && (fraction.getD []).isEmpty then none
  else (readExponent? digit? rest).map fun exponent => ⟨negative, whole, fraction, exponent⟩

/-! ## What a numeral denotes -/

/-- The numeral has neither point nor exponent. -/
def isInteger (n : Numeral) : Bool := n.fraction.isNone && n.exponent.isNone

/-- The whole number that a numeral with neither point nor exponent denotes. -/
def toInt (n : Numeral) : Int := withSign n.negative (ofDigits n.whole)

/-- The decimal that the numeral denotes, sign left out. -/
def magnitude (n : Numeral) : Decimal :=
  let fraction := n.fraction.getD []
  ⟨ofDigits (n.whole ++ fraction), n.exponent.getD 0 - fraction.length⟩

end Numeral

/-! ## Rounding to a binary number -/

namespace Decimal

/-- Decimals from ten to this power are beyond all finite binary numbers, and those below ten to
the opposite power are rounded to zero. -/
def exponentBound : Int := 330

/-- The binary number nearest to a decimal with a sign. A decimal far out of range is not expanded
into its quotient. -/
def toBinary64 (negative : Bool) (d : Decimal) : Binary64 :=
  if d.digits = 0 then .zero negative
  else
    let leading := decimalExponent d.digits 1 + d.exponent
    if leading < -exponentBound then .zero negative
    else if exponentBound < leading then .infinity negative
    else
      .nearest negative (d.digits * powerNum 10 d.exponent) (powerDen 10 d.exponent)

end Decimal

/-- The binary number nearest to what the numeral denotes. -/
def Numeral.toBinary64 (n : Numeral) : Binary64 := n.magnitude.toBinary64 n.negative

end FormulaEditor
