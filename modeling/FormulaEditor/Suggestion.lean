import FormulaEditor.Text.Blank
import FormulaEditor.Text.Case
import FormulaEditor.Token

/-! # Suggestions

A suggestion is a variable that can be picked while typing. A typed text finds the suggestions in
whose names it occurs, upper and lower case being the same.
-/

namespace FormulaEditor

/-- A variable that can be picked. -/
structure Suggestion where
  id : String
  name : String
  deriving DecidableEq, Repr, Inhabited

namespace Suggestion

def WellFormed (s : Suggestion) : Prop := s.id ≠ "" ∧ s.name ≠ ""

/-- Whether a suggestion is well formed can be tested. -/
instance : DecidablePred WellFormed := fun s => by
  simp only [WellFormed]; infer_instance

/-- The token for a picked suggestion; its value is zero until it is bound to another. -/
def toToken (s : Suggestion) : Token := .variable s.id s.name (.int 0)

/-- One row of characters occurs in another without a gap. -/
def occursIn (needle : List Char) : List Char → Bool
  | [] => needle.isEmpty
  | c :: rest => needle.isPrefixOf (c :: rest) || occursIn needle rest

/-- The name holds the text, the text being in lower case. -/
def matchesLower (needle : String) (s : Suggestion) : Bool :=
  occursIn needle.toList (Text.lower s.name).toList

/-- The suggestions whose names hold the text, in their order. Blanks around the text do not count,
and a blank text finds nothing. -/
def search (suggestions : List Suggestion) (query : String) : List Suggestion :=
  let needle := Text.lower (Text.strip query)
  if needle = "" then [] else suggestions.filter (matchesLower needle)

end Suggestion

end FormulaEditor
