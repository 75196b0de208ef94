import FormulaEditor.Decimal.Numeral
import FormulaEditor.Text.Blank
import FormulaEditor.Text.Case

/-! # Loosely written numerals

Numbers that come from outside the editor may be written loosely: white space around them,
underscores between digits, digits of any script, and for a binary number the words for infinity
and for an undefined number.
-/

namespace FormulaEditor.LooseNumeral

/-- The text without its underscores, provided that each stands between two digits; `before` tells
whether a digit precedes. -/
def ungroup? (before : Bool) : List Char → Option (List Char)
  | [] => some []
  | '_' :: rest =>
    match rest with
    | c :: _ => if before && (Text.digit? c).isSome then ungroup? false rest else none
    | [] => none
  | c :: rest => (ungroup? (Text.digit? c).isSome rest).map (c :: ·)

/-- The words for infinity and for an undefined number, in any mixture of cases. -/
def readWord? (s : List Char) : Option Binary64 :=
  let (negative, word) := Numeral.takeSign s
  let word := word.map Char.toLower
  if word = "inf".toList ∨ word = "infinity".toList then some (.infinity negative)
  else if word = "nan".toList then some .nan
  else none

/-- A binary number, as a numeral in the given digits or as a word. -/
def readPlain? (digit? : Char → Option Nat) (s : List Char) : Option Binary64 :=
  match Numeral.read? digit? s with
  | some n => some n.toBinary64
  | none => readWord? s

/-- The binary number that a text gives. -/
def readBinary64? (s : String) : Option Binary64 :=
  (ungroup? false (Text.trimBy Text.isWhiteSpace s.toList)).bind (readPlain? Text.digit?)

/-- The whole number that a text gives. -/
def readInt? (s : String) : Option Int :=
  match (ungroup? false (Text.trimBy Text.isWhiteSpace s.toList)).bind
      (Numeral.read? Text.digit?) with
  | some n => if n.isInteger && n.whole.length ≤ integerDigitLimit then some n.toInt else none
  | none => none

end FormulaEditor.LooseNumeral
