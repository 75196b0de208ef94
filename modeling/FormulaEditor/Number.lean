import FormulaEditor.Binary64.Digits

/-! # Numbers of a formula

A number is a whole number of any size or a binary floating-point number, and stays what it is: `3`
and `3.0` are different numbers with different labels. A binary number that enters a computation
stands for the shortest decimal that reads back as it, so that `0.1` is one tenth. Whole numbers are
computed with at any size, but those of too many digits are not written.
-/

namespace FormulaEditor

/-- A whole number or a binary floating-point number. -/
inductive Number where
  | int (n : Int)
  | float (x : Binary64)
  deriving DecidableEq, Repr, Inhabited

namespace Number

/-- The text of the number, however long it is. -/
def text : Number → String
  | .int n => toString n
  | .float x => x.text

/-- The number can be written: if it is whole, it has not too many digits. -/
def isWritable : Number → Bool
  | .int n => decide ((Nat.toDigits 10 n.natAbs).length ≤ integerDigitLimit)
  | .float _ => true

/-- The text of the number, if it can be written. -/
def text? (n : Number) : Option String := if n.isWritable then some n.text else none

/-- The number is neither infinite nor undefined. -/
def isFinite : Number → Bool
  | .int _ => true
  | .float x => x.isFinite

/-- The rational that the number stands for, when it is finite. -/
def toRat? : Number → Option Rat
  | .int n => some n
  | .float x => x.shortestRat?

end Number

end FormulaEditor
