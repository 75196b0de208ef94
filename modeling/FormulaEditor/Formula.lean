import FormulaEditor.Text.Blank
import FormulaEditor.Token

/-! # Formulas

A formula is the row of tokens entered so far. It grows at its end, and tokens are replaced and
removed by position; a position outside the row is refused, and a negative one is never counted from
the end. On display the labels are separated by spaces, except inside parentheses.
-/

namespace FormulaEditor

/-- The row of tokens entered so far. -/
abbrev Formula := List Token

namespace Formula

/-! ## Editing -/

/-- The place in the row that a position names, if it names one. -/
def place? (f : Formula) (index : Int) : Option Nat :=
  if 0 ≤ index ∧ index < f.length then some index.toNat else none

/-- The row with a token behind its last one. -/
def append (f : Formula) (t : Token) : Formula := f ++ [t]

def tokenAt? (f : Formula) (index : Int) : Option Token := (f.place? index).bind (f[·]?)

/-- The row with another token at a position; none when the row has no such position. -/
def replaceAt? (f : Formula) (index : Int) (t : Token) : Option Formula :=
  (f.place? index).map fun i => f.set i t

/-- The row without the token at a position; none when the row has no such position. -/
def removeAt? (f : Formula) (index : Int) : Option Formula :=
  (f.place? index).map f.eraseIdx

/-! ## Display -/

/-- The text without the blanks that follow a mark; `after` tells that a mark or a blank dropped
behind it has just been passed. -/
def dropBlanksAfter (mark : Char) (after : Bool) : List Glyph → List Glyph
  | [] => []
  | g :: rest =>
    if after && g.isBlank then dropBlanksAfter mark true rest
    else g :: dropBlanksAfter mark (g.isChar mark) rest

/-- The text without the blanks that precede a mark. -/
def dropBlanksBefore (mark : Char) (s : List Glyph) : List Glyph :=
  (dropBlanksAfter mark false s.reverse).reverse

/-- Labels separated by spaces, with no blanks behind an opening parenthesis or before a closing
one. -/
def displayed (labels : List RawText) : RawText :=
  let spaced := (RawText.intercalate " " labels).glyphs
  .ofGlyphs (dropBlanksBefore ')' (dropBlanksAfter '(' false spaced))

/-- The text of a formula, however long its numbers are. -/
def expression (f : Formula) : RawText := displayed (f.map Token.label)

/-- The text of a formula as it is shown: there is none unless every token has a label. -/
def expression? (f : Formula) : Option RawText := (f.mapM Token.label?).map displayed

end Formula

end FormulaEditor
