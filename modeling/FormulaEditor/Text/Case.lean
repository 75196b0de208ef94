import FormulaEditor.Text.CaseTable
import FormulaEditor.Text.CasedTable

/-! # Lower and upper case of texts

Case is mapped character by character, with one rule that looks at the neighbours: a capital sigma
at the end of a word is lowered to the final form. A word ends where a cased letter stands before
the sigma and none after it, characters without influence on casing being passed over.
-/

namespace FormulaEditor.Text

/-- The nearest character that takes part in casing is a cased letter. -/
def meetsCased (neighbours : List Char) : Bool :=
  match neighbours.dropWhile isCaseIgnorable with
  | [] => false
  | c :: _ => isCased c

/-- The lower case of one character that stands between `before` (nearest first) and `after`. -/
def lowerChar (before : List Char) (c : Char) (after : List Char) : List Char :=
  if c.toNat < 0x80 then [c.toLower]
  else if c = 'Σ' then
    if meetsCased before && !meetsCased after then ['ς'] else ['σ']
  else if c = 'İ' then ['i', '\u0307']
  else [shiftBy lowerRuns c]

/-- Lower case of the rest of a text, `before` being what precedes it, nearest first. -/
def lowerFrom (before : List Char) : List Char → List Char
  | [] => []
  | c :: after => lowerChar before c after ++ lowerFrom (c :: before) after

def lower (s : String) : String := String.ofList (lowerFrom [] s.toList)

/-- The upper case of one character; some characters take more than one. -/
def upperChar (c : Char) : List Char :=
  if c.toNat < 0x80 then [c.toUpper]
  else
    match upperExpansions.find? (·.1 == c.toNat) with
    | some (_, image) => image.map Char.ofNat
    | none => [shiftBy upperRuns c]

def upper (s : String) : String := String.ofList (s.toList.flatMap upperChar)

end FormulaEditor.Text
