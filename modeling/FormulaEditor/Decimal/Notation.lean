import FormulaEditor.Decimal.Quotient

/-! # Writing numbers in base ten

Whole numbers are written only up to a limit. A decimal is a whole number of powers of ten. A notation says which decimals are written
positionally, and whether a whole one keeps a fractional zero; all others have one digit before the
point and a signed exponent of at least two digits.
-/

namespace FormulaEditor

/-! ## The length of whole numbers -/

/-- Whole numbers of more digits than this are neither read nor written. -/
def integerDigitLimit : Nat := 4300

/-- The complaint about a whole number of too many digits, with what else is known of it. -/
def integerLimitMessage (detail : String) : String :=
  "Exceeds the limit (" ++ toString integerDigitLimit ++ " digits) for integer string conversion" ++
    detail ++ "; use sys.set_int_max_str_digits() to increase the limit"

/-! ## Decimals -/

/-- The decimal `digits * 10 ^ exponent`. -/
structure Decimal where
  digits : Nat
  exponent : Int
  deriving DecidableEq, Repr

namespace Decimal

/-- The exact value. -/
def toRat (d : Decimal) : Rat :=
  mkRat (d.digits * powerNum 10 d.exponent : Nat) (powerDen 10 d.exponent)

/-- How decimals are written. -/
structure Notation where
  /-- the least exponent of the leading digit that is written positionally -/
  plainFrom : Int
  /-- the least exponent of the leading digit above it that is not -/
  plainBelow : Int
  /-- a whole number written positionally ends in `.0` -/
  pointZero : Bool

/-- Digits of a natural in base ten, without the zeros at the end. -/
def significantDigits (n : Nat) : List Char :=
  ((Nat.toDigits 10 n).reverse.dropWhile (· == '0')).reverse

/-- The exponent of ten: a sign and at least two digits. -/
def exponentText (e : Int) : List Char :=
  let digits := Nat.toDigits 10 e.natAbs
  (if e < 0 then '-' else '+') :: (if digits.length < 2 then '0' :: digits else digits)

/-- The digits `leading :: rest`, the leading one standing for `leading * 10 ^ e`, written
positionally. -/
def positional (pointZero : Bool) (digits : List Char) (e : Int) : List Char :=
  if e < 0 then '0' :: '.' :: (List.replicate (-e - 1).toNat '0' ++ digits)
  else
    let whole := e.toNat + 1
    if digits.length ≤ whole then
      digits ++ List.replicate (whole - digits.length) '0' ++ (if pointZero then ['.', '0'] else [])
    else digits.take whole ++ '.' :: digits.drop whole

/-- The digits with one before the point, and the exponent of that one. -/
def scientific (digits : List Char) (e : Int) : List Char :=
  (match digits with
    | [] => []
    | [d] => [d]
    | d :: rest => d :: '.' :: rest) ++ 'e' :: exponentText e

/-- The text of a decimal that is not zero. -/
def render (style : Notation) (d : Decimal) : List Char :=
  let e := d.exponent + (Nat.toDigits 10 d.digits).length - 1
  let digits := significantDigits d.digits
  if style.plainFrom ≤ e ∧ e < style.plainBelow then positional style.pointZero digits e
  else scientific digits e

end Decimal

end FormulaEditor
