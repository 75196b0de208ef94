import FormulaEditor.Evaluation.Answer
import FormulaEditor.Keyboard

/-! # Editing sessions

A session holds the formula, the fragment being typed, and the list of suggestions for it. Setting
the fragment starts a lookup, which returns at some later time; what it finds is taken only if no
later fragment has been set and nothing has been committed since. Requests are numbered for this:
the number changes with every new fragment and every commit.
-/

namespace FormulaEditor

/-- A lookup that has been started. -/
structure Request where
  text : RawText
  number : Nat
  deriving DecidableEq, Repr

/-- The state of a session. -/
structure Session where
  formula : Formula := []
  bindings : Bindings := []
  pending : RawText := ""
  suggestions : List Suggestion := []
  suggestionsOpen : Bool := false
  highlighted : Int := 0
  /-- a lookup for the fragment is under way -/
  loading : Bool := false
  /-- the number of the last request or commit -/
  number : Nat := 0
  deriving DecidableEq, Repr, Inhabited

namespace Session

/-! ## The fragment and its suggestions -/

/-- The session without a list of suggestions. -/
def closeList (s : Session) : Session :=
  { s with suggestions := [], suggestionsOpen := false, highlighted := 0, loading := false }

/-- Sets the fragment. Unless it is blank, an empty list is opened and a lookup is to be started. -/
def begin (s : Session) (text : RawText) : Session × Option Request :=
  -- The number goes up for a blank fragment as well, so that no lookup is waited for any more.
  let s := { s with pending := text, number := s.number + 1 }
  if text.isBlank then (s.closeList, none)
  else
    ({ s with suggestions := [], suggestionsOpen := true, highlighted := 0, loading := true },
      some ⟨text, s.number⟩)

def awaits (s : Session) (request : Request) : Bool :=
  request.number == s.number && request.text == s.pending

/-- A lookup has returned. What it found is taken if the session waits for it; the flag tells
whether it was. -/
def arrive (s : Session) (request : Request) (found : List Suggestion) : Session × Bool :=
  if s.awaits request then
    -- The list stays closed if it has been closed in the meantime.
    ({ s with
        suggestions := found, loading := false,
        highlighted := if (found.length : Int) ≤ s.highlighted then 0 else s.highlighted },
      true)
  else (s, false)

/-- The focus has gone elsewhere: the list is closed and kept. -/
def blur (s : Session) : Session := { s with suggestionsOpen := false }

/-! ## Keys -/

def inputState (s : Session) : InputState :=
  ⟨s.pending, s.suggestions, s.suggestionsOpen, s.highlighted, s.formula.length⟩

/-- The effect of an action on the formula and on the highlight. -/
def act (s : Session) (action : InputAction) : Session :=
  match action.kind with
  | .append | .commitSuggestion => { s with formula := s.formula ++ action.tokens }
  | .removeLast =>
    { s with formula := (s.formula.removeAt? ((s.formula.length : Int) - 1)).getD s.formula }
  | .moveHighlight => { s with highlighted := action.highlight.getD s.highlighted }
  | _ => s

/-- The effect of clearing the fragment: lookups under way are no longer waited for. -/
def clearPending (s : Session) : Session :=
  { s with pending := .whole "", number := s.number + 1, loading := false }

/-- Carries out an action. -/
def apply (s : Session) (action : InputAction) : Session :=
  let s := s.act action
  -- Closing alone keeps the suggestions; only together with the fragment they are dropped.
  match action.clearPending, action.closeSuggestions with
  | true, true => s.clearPending.closeList
  | true, false => s.clearPending
  | false, true => s.blur
  | false, false => s

def press (s : Session) (key : Key) : Session × InputAction :=
  let action := s.inputState.decide key
  (s.apply action, action)

/-- Picks the suggestion at a position; none when the list has no such position. -/
def pick? (s : Session) (index : Int) : Option Session :=
  if 0 ≤ index then
    s.suggestions[index.toNat]?.map fun suggestion =>
      { s with
        formula := s.formula.append suggestion.toToken, pending := .whole "",
        number := s.number + 1 }.closeList
  else none

/-! ## Tokens -/

def clear (s : Session) : Session := { s with formula := [] }

/-- Replaces the token at a position by that for a text; none when the text is blank or the formula
has no such position. -/
def editToken? (s : Session) (index : Int) (text : RawText) : Option Session :=
  if text.isBlank then none
  else
    (s.formula.replaceAt? index (Fragment.classify text)).map fun formula => { s with formula }

/-- Removes the token at a position; none when the formula has no such position. -/
def deleteToken? (s : Session) (index : Int) : Option Session :=
  (s.formula.removeAt? index).map fun formula => { s with formula }

def tokenAt? (s : Session) (index : Int) : Option Token := s.formula.tokenAt? index

/-! ## What a session shows -/

def verdict (s : Session) : Except EvalError Verdict := s.formula.evaluate s.bindings

end Session

structure View where
  formula : Formula
  expression : RawText
  verdict : Verdict
  pending : RawText
  suggestions : List Suggestion
  suggestionsOpen : Bool
  highlighted : Int
  loading : Bool

/-- What is shown of a session, unless its formula cannot be written. -/
def Session.view (s : Session) : Except EvalError View :=
  match s.formula.expression? with
  | none => .error .unwritable
  | some expression =>
    s.verdict.map fun verdict =>
      { formula := s.formula, expression, verdict, pending := s.pending,
        suggestions := s.suggestions, suggestionsOpen := s.suggestionsOpen,
        highlighted := s.highlighted, loading := s.loading }

end FormulaEditor
