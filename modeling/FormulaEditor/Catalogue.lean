import FormulaEditor.Validation.Records

/-! # Catalogues

A catalogue is a fixed list of suggestions that is searched without asking anyone. Its entries are
suggestions, or rows of an identifier and a name.
-/

namespace FormulaEditor

/-- An entry as it is given: a suggestion, or a row whose cells are still to be checked. -/
inductive CatalogueEntry where
  | suggestion (s : Suggestion)
  | row (cells : List Json)

/-- Why an entry is no suggestion. -/
inductive CatalogueFault where
  | invalid (issues : List Issue)
  | tooManyCells
  | tooFewCells (found : Nat)

namespace CatalogueEntry

def cellCount : Nat := 2

def toSuggestion : CatalogueEntry → Except CatalogueFault Suggestion
  | .suggestion s => .ok s
  | .row [id, name] => (Suggestion.ofParts id name).mapError .invalid
  | .row cells =>
    .error (if cellCount < cells.length then .tooManyCells else .tooFewCells cells.length)

/-- An entry in structured data: a row is kept as it is, all else has to be a suggestion. -/
def ofJson (v : Json) : Checked CatalogueEntry :=
  match v with
  | .arr cells => .ok (.row cells)
  | v => (Suggestion.ofJson v).map .suggestion

end CatalogueEntry

/-- The wording of a fault with the shape of a row; issues with its cells have their own. -/
def CatalogueFault.message? : CatalogueFault → Option String
  | .invalid _ => none
  | .tooManyCells =>
    some ("too many values to unpack (expected " ++ toString CatalogueEntry.cellCount ++ ")")
  | .tooFewCells found =>
    some ("not enough values to unpack (expected " ++ toString CatalogueEntry.cellCount ++
      ", got " ++ toString found ++ ")")

/-- The suggestions of a catalogue; the first entry that is none is the fault. -/
def catalogue (entries : List CatalogueEntry) : Except CatalogueFault (List Suggestion) :=
  entries.mapM CatalogueEntry.toSuggestion

end FormulaEditor
