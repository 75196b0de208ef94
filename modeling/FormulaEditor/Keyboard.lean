import FormulaEditor.Fragment
import FormulaEditor.Suggestion

/-! # What a key does

A key is decided on from the state of the input: the fragment, the list of suggestions with its
highlight, and the length of the formula. The decision is an action, which is a record of
independent effects, and is carried out elsewhere.
-/

namespace FormulaEditor

/-! ## Keys -/

/-- A key, as far as the input takes notice of it. -/
inductive Key where
  | enter
  | operator (op : Operator)
  | backspace
  | arrowUp
  | arrowDown
  | escape
  | other
  deriving DecidableEq, Repr

/-- The key of a name. Operator keys are named by their symbols. -/
def Key.ofName : RawText → Key
  | .torn .. => .other
  | .whole name =>
    match Operator.ofSymbol? name with
    | some op => .operator op
    | none =>
      match name with
      | "Enter" => .enter
      | "Backspace" => .backspace
      | "ArrowUp" => .arrowUp
      | "ArrowDown" => .arrowDown
      | "Escape" => .escape
      | _ => .other

/-! ## Actions -/

/-- What an action does to the formula or the list. -/
inductive ActionKind where
  | commitSuggestion
  | append
  | removeLast
  | moveHighlight
  | closeSuggestions
  | editPending
  | nothing
  deriving DecidableEq, Repr, Inhabited

namespace ActionKind

/-- The kinds in the order in which they are listed. -/
def all : List ActionKind :=
  [.commitSuggestion, .append, .removeLast, .moveHighlight, .closeSuggestions, .editPending,
    .nothing]

def word : ActionKind → String
  | .commitSuggestion => "commit_suggestion"
  | .append => "append"
  | .removeLast => "remove_last"
  | .moveHighlight => "move_highlight"
  | .closeSuggestions => "close_suggestions"
  | .editPending => "edit_pending"
  | .nothing => "none"

end ActionKind

/-- What to do: tokens to append, a place to highlight, and flags. -/
structure InputAction where
  kind : ActionKind := .nothing
  tokens : List Token := []
  highlight : Option Int := none
  clearPending : Bool := false
  closeSuggestions : Bool := false
  preventDefault : Bool := false
  deriving DecidableEq, Repr, Inhabited

/-- The action that appends tokens and clears the input. -/
def InputAction.commit (kind : ActionKind) (tokens : List Token) : InputAction :=
  { kind, tokens, clearPending := true, closeSuggestions := true, preventDefault := true }

/-! ## Decisions -/

/-- The state of the input that a decision depends on. -/
structure InputState where
  pending : RawText := ""
  suggestions : List Suggestion := []
  suggestionsOpen : Bool := false
  highlighted : Int := 0
  formulaLength : Int := 0
  deriving DecidableEq, Repr, Inhabited

namespace InputState

/-- The highlighted place, moved into the list. -/
def clamped (state : InputState) : Int :=
  min (max state.highlighted 0) ((state.suggestions.length : Int) - 1)

/-- The suggestion that is picked by committing: the highlighted one of a list that is open. -/
def chosen? (state : InputState) : Option Suggestion :=
  if state.suggestionsOpen then state.suggestions[state.clamped.toNat]? else none

/-- The action that moves the highlight, around the ends of the list. -/
def moveHighlight (state : InputState) (step : Int) : InputAction :=
  if state.suggestionsOpen && !state.suggestions.isEmpty then
    { kind := .moveHighlight, highlight := some ((state.clamped + step) % state.suggestions.length),
      preventDefault := true }
  else {}

/-- The action for the enter key: the highlighted suggestion is committed, or else the fragment. -/
def enter (state : InputState) : InputAction :=
  match state.chosen? with
  | some s => .commit .commitSuggestion [s.toToken]
  | none =>
    if state.pending.isBlank then {}
    else .commit .append [Fragment.classify state.pending]

/-- The action for the backspace key: it acts on the formula only when the fragment is empty. -/
def backspace (state : InputState) : InputAction :=
  -- A fragment of blanks is not empty and is still edited.
  if state.pending = .whole "" then
    if 0 < state.formulaLength then { kind := .removeLast, preventDefault := true } else {}
  else { kind := .editPending }

def decide (state : InputState) : Key → InputAction
  | .enter => state.enter
  | .operator op => .commit .append ((Fragment.flush state.pending).toList ++ [.operator op])
  | .backspace => state.backspace
  | .arrowUp => state.moveHighlight (-1)
  | .arrowDown => state.moveHighlight 1
  | .escape => { kind := .closeSuggestions, closeSuggestions := true }
  | .other => {}

end InputState

end FormulaEditor
