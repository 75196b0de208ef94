import FormulaEditor.Decimal.Numeral
import FormulaEditor.Text.Blank
import FormulaEditor.Token

/-! # Typed fragments

A fragment is what has been typed since the last token. Without the blanks around it, it becomes a
number if the whole of it is a numeral of a finite number, else an operator if it is one of the
symbols, else a text. A torn fragment is always a text.
-/

namespace FormulaEditor.Fragment

/-- Numerals of digits alone are whole numbers up to this length; longer ones are rounded. -/
def wholeDigits : Nat := 15

/-- The number that a numeral is typed for, unless it is too large to be finite. -/
def numberOf? (n : Numeral) : Option Number :=
  if n.isInteger && n.whole.length ≤ wholeDigits then some (.int n.toInt)
  else if n.toBinary64.isFinite then some (.float n.toBinary64)
  else none

def number? (fragment : String) : Option Number :=
  (Numeral.read? Text.digit? (Text.strip fragment).toList).bind numberOf?

def classify (fragment : RawText) : Token :=
  match fragment.toString?.bind number? with
  | some n => .number n
  | none =>
    match fragment.strip.toString?.bind Operator.ofSymbol? with
    | some op => .operator op
    | none => .text fragment.strip

/-- The token that a fragment leaves when an operator key ends it; a blank one leaves none. -/
def flush (fragment : RawText) : Option Token :=
  if fragment.isBlank then none
  else
    match fragment.toString?.bind number? with
    | some n => some (.number n)
    | none => some (.text fragment.strip)

end FormulaEditor.Fragment
