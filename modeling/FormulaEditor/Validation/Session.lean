import FormulaEditor.Session.Basic
import FormulaEditor.Validation.Records

/-! # Sessions in structured data

What the keyboard is given and what it asks for are written as records and read from them; what a
session shows is only written.
-/

namespace FormulaEditor

/-! ## Input states and actions -/

/-- The input state that a record is; what is not given is as in an empty input. -/
def InputState.ofJson (v : Json) : Checked InputState :=
  match v with
  | .obj members =>
    (Checked.both (Checked.optional members "pending" (.whole "") Coercion.rawText)
      (Checked.both
        (Checked.optional members "suggestions" [] (Checked.list Suggestion.ofJson))
        (Checked.both (Checked.optional members "suggestions_open" false Coercion.bool)
          (Checked.both (Checked.optional members "highlighted" 0 Coercion.int)
            (Checked.optional members "formula_length" 0 Coercion.int))))).map
      fun (pending, suggestions, suggestionsOpen, highlighted, formulaLength) =>
        ⟨pending, suggestions, suggestionsOpen, highlighted, formulaLength⟩
  | v => Checked.refuse (.modelType "InputState") v

def InputState.toJson (state : InputState) : Json :=
  .obj [("pending", .str state.pending),
    ("suggestions", .arr (state.suggestions.map Suggestion.toJson)),
    ("suggestions_open", .bool state.suggestionsOpen), ("highlighted", .int state.highlighted),
    ("formula_length", .int state.formulaLength)]

/-- The action that a record is; what is not given does nothing. -/
def InputAction.ofJson (v : Json) : Checked InputAction :=
  match v with
  | .obj members =>
    (Checked.both
      (Checked.optional members "kind" .nothing (Coercion.word ActionKind.all ActionKind.word))
      (Checked.both
        (Checked.optional members "tokens" [] (Checked.list (Token.ofJson Token.notAToken)))
        (Checked.both
          (Checked.optional members "highlight" none (Checked.nullable Coercion.int))
          (Checked.both (Checked.optional members "clear_pending" false Coercion.bool)
            (Checked.both (Checked.optional members "close_suggestions" false Coercion.bool)
              (Checked.optional members "prevent_default" false Coercion.bool)))))).map
      fun (kind, tokens, highlight, clearPending, closeSuggestions, preventDefault) =>
        ⟨kind, tokens, highlight, clearPending, closeSuggestions, preventDefault⟩
  | v => Checked.refuse (.modelType "InputAction") v

def InputAction.toJson (action : InputAction) : Json :=
  .obj [("kind", .str action.kind.word), ("tokens", .arr (action.tokens.map Token.toJson)),
    ("highlight", match action.highlight with | some h => .int h | none => .null),
    ("clear_pending", .bool action.clearPending),
    ("close_suggestions", .bool action.closeSuggestions),
    ("prevent_default", .bool action.preventDefault)]

/-! ## Verdicts and views -/

def Verdict.toJson (v : Verdict) : Json :=
  let value := match v.value with
    | some n => .number n
    | none => .null
  let error := match v.error with
    | some text => .str (.whole text)
    | none => .null
  .obj [("status", .str v.status.word), ("value", value), ("is_exact", .bool v.isExact),
    ("error", error), ("steps", .arr (v.steps.map fun step => .str step.text))]

def View.toJson (view : View) : Json :=
  .obj [("tokens", .arr (view.formula.map Token.toJson)), ("expression", .str view.expression),
    ("result", view.verdict.toJson), ("pending", .str view.pending),
    ("suggestions", .arr (view.suggestions.map Suggestion.toJson)),
    ("suggestions_open", .bool view.suggestionsOpen), ("highlighted", .int view.highlighted),
    ("loading", .bool view.loading)]

end FormulaEditor
