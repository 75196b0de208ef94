import Mathlib.Data.List.Infix
import FormulaEditor.Fragment
import FormulaEditor.Proofs.Text.Blank
import FormulaEditor.Proofs.Text.RawText
import FormulaEditor.Suggestion

/-! # A text cut into pieces

A text that is typed can be read without a session: operators and line ends cut it into pieces, and
every piece gives its tokens by itself.  Only what is left of a piece when it is trimmed matters.
-/

namespace FormulaEditor

/-! ## What a fragment becomes -/

namespace Fragment

variable {f g : RawText}

/-- Only what is left when the fragment is trimmed can be a numeral. -/
theorem number?_eq (f : RawText) :
    f.toString?.bind number? =
      f.strip.toString?.bind fun s => (Numeral.read? Text.digit? s.toList).bind numberOf? := by
  cases f <;> simp [RawText.toString?, RawText.strip, number?]

theorem classify_congr (same : f.strip = g.strip) : classify f = classify g := by
  rw [classify, classify, number?_eq, number?_eq, same]

theorem flush_congr (same : f.strip = g.strip) : flush f = flush g := by
  have blank : f.isBlank = g.isBlank := by
    rw [Bool.eq_iff_iff, RawText.isBlank_iff, RawText.isBlank_iff, same]
  rw [flush, flush, number?_eq, number?_eq, same, blank]

theorem flush_of_blank (blank : f.isBlank = true) : flush f = none := by
  rw [flush, if_pos blank]

end Fragment

/-! ## Pieces and their tokens -/

/-- What ends a piece; the end of the text counts as a line end. -/
inductive Piece.Ending where
  | operator (op : Operator)
  | line
  deriving DecidableEq, Repr

structure Piece where
  text : RawText
  ending : Piece.Ending
  deriving DecidableEq, Repr

namespace Piece

/-- The name of the suggestion contains the text, both being in lower case and the text trimmed. A
torn text is in no name. -/
def isNamedIn (text : RawText) (s : Suggestion) : Bool :=
  match text.strip with
  | .whole t => decide ((Text.lower t).toList <:+: (Text.lower s.name).toList)
  | .torn .. => false

/-- An operator leaves of the piece in front of it what an operator key leaves of a fragment. A line
end turns the piece into the first variable that it names, or else into the token that it is. -/
def tokens (entries : List Suggestion) (p : Piece) : List Token :=
  match p.ending with
  | .operator op => (Fragment.flush p.text).toList ++ [.operator op]
  | .line =>
    if p.text.isBlank then []
    else
      match entries.find? (isNamedIn p.text) with
      | some s => [.variable s.id s.name (.int 0)]
      | none => [Fragment.classify p.text]

theorem tokens_congr (entries : List Suggestion) {f g : RawText} (same : f.strip = g.strip)
    (ending : Ending) : tokens entries ⟨f, ending⟩ = tokens entries ⟨g, ending⟩ := by
  cases ending with
  | operator op => simp only [tokens, Fragment.flush_congr same]
  | line =>
    have blank : f.isBlank = g.isBlank := by
      rw [Bool.eq_iff_iff, RawText.isBlank_iff, RawText.isBlank_iff, same]
    have named : isNamedIn f = isNamedIn g := by
      funext s
      rw [isNamedIn, isNamedIn, same]
    simp only [tokens, blank, named, Fragment.classify_congr same]

theorem tokens_line_of_blank (entries : List Suggestion) {f : RawText}
    (blank : f.isBlank = true) : tokens entries ⟨f, .line⟩ = [] := by
  rw [tokens, if_pos blank]

end Piece

/-! ## Cutting -/

namespace RawText

/-- What a glyph ends, if it does not belong to a piece. -/
def ending? : Glyph → Option Piece.Ending
  | .char c =>
    if c = '\n' then some .line
    else (Operator.ofChar? c).map .operator
  | .half _ => none

/-- The pieces of a text that goes on with the given glyphs, `front` being the piece so far. -/
def piecesBehind (front : RawText) : List Glyph → List Piece
  | [] => [⟨front, .line⟩]
  | g :: rest =>
    match ending? g with
    | some ending => ⟨front, ending⟩ :: piecesBehind "" rest
    | none => piecesBehind (front.push g) rest

/-- The pieces between the operators and line ends of a text. -/
def pieces (s : RawText) : List Piece := piecesBehind "" s.glyphs

/-- The tokens of the pieces in a row. -/
def tokens (entries : List Suggestion) (s : RawText) : List Token :=
  s.pieces.flatMap (Piece.tokens entries)

end RawText

end FormulaEditor
