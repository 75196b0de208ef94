import FormulaEditor.Session.Basic

/-! # What the operations of a session do

Besides setting the fragment there are six operations.  Each either commits something, which puts
tokens behind the formula and resets all that has to do with the fragment, or leaves the fragment,
its suggestions and its requests alone.
-/

namespace FormulaEditor

/-- An operation on a session other than setting the fragment. -/
inductive Operation where
  | press (key : Key)
  | pick (index : Int)
  | blur
  | clear
  | edit (index : Int) (text : RawText)
  | delete (index : Int)
  deriving DecidableEq, Repr

/-- Carries out the operation; one that is refused changes nothing. -/
def Operation.perform (s : Session) : Operation → Session
  | .press key => (s.press key).1
  | .pick index => (s.pick? index).getD s
  | .blur => s.blur
  | .clear => s.clear
  | .edit index text => (s.editToken? index text).getD s
  | .delete index => (s.deleteToken? index).getD s

/-- The operation commits something: the formula grows. -/
def Operation.commits (s : Session) (op : Operation) : Bool :=
  decide (s.formula.length < (op.perform s).formula.length)

/-! ## Tokens of typed text -/

theorem Fragment.classify_ne_variable (fragment id name : RawText) (value : Number) :
    classify fragment ≠ .variable id name value := by
  rw [classify]
  split
  · exact nofun
  · split <;> exact nofun

theorem Fragment.flush_ne_variable (fragment id name : RawText) (value : Number) :
    flush fragment ≠ some (.variable id name value) := by
  rw [flush]
  split
  · exact nofun
  · split <;> simp

/-! ## Commits and other changes -/

namespace Session

/-- The session after tokens have been committed. -/
def commit (s : Session) (added : List Token) : Session :=
  { s with formula := s.formula ++ added }.clearPending.closeList

@[simp] theorem commit_formula (s : Session) (added : List Token) :
    (s.commit added).formula = s.formula ++ added := rfl

@[simp] theorem commit_suggestions (s : Session) (added : List Token) :
    (s.commit added).suggestions = [] := rfl

@[simp] theorem commit_number (s : Session) (added : List Token) :
    (s.commit added).number = s.number + 1 := rfl

/-- Every variable among the tokens is the one of some suggestion on the list. -/
def Offers (s : Session) (added : List Token) : Prop :=
  ∀ id name value, .variable id name value ∈ added →
    ∃ suggestion ∈ s.suggestions, suggestion.toToken = .variable id name value

/-- The second session differs from the first at most in the formula, which has not grown, in the
list, which has not been opened, and in the highlight, which has not been moved off the list. -/
structure Keeps (s s' : Session) : Prop where
  formula : s'.formula.length ≤ s.formula.length
  isOpen : s'.suggestionsOpen = true → s.suggestionsOpen = true
  highlighted : s'.highlighted = s.highlighted ∨
    0 ≤ s'.highlighted ∧ s'.highlighted < s.suggestions.length
  rest : s' = { s with
    formula := s'.formula, suggestionsOpen := s'.suggestionsOpen, highlighted := s'.highlighted }

theorem Keeps.refl (s : Session) : s.Keeps s := ⟨Nat.le_refl _, id, .inl rfl, rfl⟩

theorem Keeps.pending {s s' : Session} (keeps : s.Keeps s') : s'.pending = s.pending := by
  rw [keeps.rest]

theorem Keeps.suggestions {s s' : Session} (keeps : s.Keeps s') :
    s'.suggestions = s.suggestions := by
  rw [keeps.rest]

theorem Keeps.number {s s' : Session} (keeps : s.Keeps s') : s'.number = s.number := by
  rw [keeps.rest]

theorem Keeps.loading {s s' : Session} (keeps : s.Keeps s') : s'.loading = s.loading := by
  rw [keeps.rest]

theorem keeps_formula {s : Session} {formula : Formula}
    (short : formula.length ≤ s.formula.length) : s.Keeps { s with formula } :=
  ⟨short, id, .inl rfl, rfl⟩

theorem keeps_blur (s : Session) : s.Keeps s.blur := ⟨Nat.le_refl _, nofun, .inl rfl, rfl⟩

end Session

/-! ## Keys -/

namespace InputState

theorem chosen?_mem {state : InputState} {suggestion : Suggestion}
    (chosen : state.chosen? = some suggestion) : suggestion ∈ state.suggestions := by
  rw [chosen?] at chosen
  split at chosen
  · exact List.mem_of_getElem? chosen
  · cases chosen

theorem moveHighlight_cases (state : InputState) (step : Int) :
    state.moveHighlight step = {} ∨
      ∃ highlight : Int, 0 ≤ highlight ∧ highlight < state.suggestions.length ∧
        state.moveHighlight step =
          { kind := .moveHighlight, highlight := some highlight, preventDefault := true } := by
  rw [moveHighlight]
  split
  · next shown =>
    have nonempty : (0 : Int) < state.suggestions.length := by
      rw [Bool.and_eq_true, Bool.not_eq_true', List.isEmpty_eq_false_iff] at shown
      have := List.length_pos_iff.mpr shown.2
      omega
    refine .inr ⟨_, Int.emod_nonneg _ ?_, Int.emod_lt_of_pos _ nonempty, rfl⟩
    omega
  · exact .inl rfl

end InputState

namespace Session

/-! ### What each key does -/

theorem press_enter_chosen {s : Session} {suggestion : Suggestion}
    (chosen : s.inputState.chosen? = some suggestion) :
    (s.press .enter).1 = s.commit [suggestion.toToken] := by
  rw [press, InputState.decide, InputState.enter, chosen]
  rfl

theorem press_enter_typed {s : Session} (unchosen : s.inputState.chosen? = none)
    (typed : ¬ s.pending.isBlank = true) :
    (s.press .enter).1 = s.commit [Fragment.classify s.pending] := by
  have append : s.inputState.enter = .commit .append [Fragment.classify s.pending] := by
    rw [InputState.enter, unchosen]
    exact if_neg typed
  rw [press, InputState.decide, append]
  rfl

theorem press_enter_blank {s : Session} (unchosen : s.inputState.chosen? = none)
    (blank : s.pending.isBlank = true) : (s.press .enter).1 = s := by
  have nothing : s.inputState.enter = {} := by
    rw [InputState.enter, unchosen]
    exact if_pos blank
  rw [press, InputState.decide, nothing]
  rfl

theorem press_operator (s : Session) (op : Operator) :
    (s.press (.operator op)).1 =
      s.commit ((Fragment.flush s.pending).toList ++ [.operator op]) := rfl

theorem press_backspace_empty {s : Session} (empty : s.pending = "") (tokens : s.formula ≠ []) :
    (s.press .backspace).1 = { s with formula := s.formula.dropLast } := by
  have positive := List.length_pos_iff.mpr tokens
  have removes : s.inputState.backspace = { kind := .removeLast, preventDefault := true } := by
    rw [InputState.backspace]
    exact (if_pos empty).trans (if_pos (Int.natCast_pos.mpr positive))
  have last : (s.formula.length - 1 : Int).toNat = s.formula.length - 1 := by omega
  have removed : s.formula.removeAt? ((s.formula.length : Int) - 1) = some s.formula.dropLast := by
    rw [Formula.removeAt?, Formula.place?, if_pos ⟨by omega, by omega⟩, Option.map_some, last,
      List.eraseIdx_length_sub_one]
  rw [press, InputState.decide, removes, apply, act, removed]
  rfl

theorem press_backspace_kept {s : Session} (kept : ¬ (s.pending = "" ∧ s.formula ≠ [])) :
    (s.press .backspace).1 = s := by
  rw [press, InputState.decide, InputState.backspace]
  split
  · next empty =>
    rw [if_neg]
    · rfl
    · intro positive
      exact kept ⟨empty, List.length_pos_iff.mp (Int.natCast_pos.mp positive)⟩
  · rfl

theorem keeps_backspace (s : Session) : s.Keeps (s.press .backspace).1 := by
  by_cases removes : s.pending = "" ∧ s.formula ≠ []
  · rw [press_backspace_empty removes.1 removes.2]
    exact keeps_formula (by rw [List.length_dropLast]; omega)
  · rw [press_backspace_kept removes]
    exact Keeps.refl s

theorem keeps_moveHighlight (s : Session) (step : Int) :
    s.Keeps (s.apply (s.inputState.moveHighlight step)) := by
  rcases s.inputState.moveHighlight_cases step with same | ⟨highlight, least, most, moved⟩
  · rw [same]
    exact Keeps.refl s
  · rw [moved]
    exact ⟨Nat.le_refl _, id, .inr ⟨least, most⟩, rfl⟩

/-! ### What a click and the operations on tokens do -/

theorem pick?_eq_some {s : Session} {index : Int} {suggestion : Suggestion}
    (place : 0 ≤ index) (picked : s.suggestions[index.toNat]? = some suggestion) :
    s.pick? index = some (s.commit [suggestion.toToken]) := by
  rw [pick?, if_pos place, picked]
  rfl

theorem pick?_eq_none {s : Session} {index : Int}
    (outside : ¬ (0 ≤ index ∧ index < s.suggestions.length)) : s.pick? index = none := by
  rw [pick?]
  split
  · rw [List.getElem?_eq_none (by omega)]
    rfl
  · rfl

theorem editToken?_eq_some {s : Session} {index : Int} {text : RawText}
    (typed : ¬ text.isBlank = true) (place : 0 ≤ index ∧ index < s.formula.length) :
    s.editToken? index text =
      some { s with formula := s.formula.set index.toNat (Fragment.classify text) } := by
  rw [editToken?, if_neg typed, Formula.replaceAt?, Formula.place?, if_pos place]
  rfl

theorem editToken?_eq_none {s : Session} {index : Int} {text : RawText}
    (refused : text.isBlank = true ∨ ¬ (0 ≤ index ∧ index < s.formula.length)) :
    s.editToken? index text = none := by
  rw [editToken?]
  split
  · rfl
  · next typed =>
    have outside := refused.resolve_left typed
    rw [Formula.replaceAt?, Formula.place?, if_neg outside]
    rfl

theorem deleteToken?_eq_some {s : Session} {index : Int}
    (place : 0 ≤ index ∧ index < s.formula.length) :
    s.deleteToken? index = some { s with formula := s.formula.eraseIdx index.toNat } := by
  rw [deleteToken?, Formula.removeAt?, Formula.place?, if_pos place]
  rfl

theorem deleteToken?_eq_none {s : Session} {index : Int}
    (outside : ¬ (0 ≤ index ∧ index < s.formula.length)) : s.deleteToken? index = none := by
  rw [deleteToken?, Formula.removeAt?, Formula.place?, if_neg outside]
  rfl

/-! ### What is offered -/

theorem offers_singleton {s : Session} {suggestion : Suggestion}
    (offered : suggestion ∈ s.suggestions) : s.Offers [suggestion.toToken] := by
  intro id name value member
  exact ⟨suggestion, offered, (List.mem_singleton.mp member).symm⟩

theorem offers_typed (s : Session) : s.Offers [Fragment.classify s.pending] := by
  intro id name value member
  exact absurd (List.mem_singleton.mp member).symm
    (Fragment.classify_ne_variable s.pending id name value)

theorem offers_flushed (s : Session) (op : Operator) :
    s.Offers ((Fragment.flush s.pending).toList ++ [.operator op]) := by
  intro id name value member
  rw [List.mem_append, List.mem_singleton, Option.mem_toList] at member
  rcases member with flushed | operator
  · exact absurd flushed (Fragment.flush_ne_variable s.pending id name value)
  · cases operator

end Session

namespace Operation

/-- The operation is one of those that commit: an operator key, the enter key while there is
something to commit, or a click on a suggestion. -/
def IsCommit (s : Session) : Operation → Prop
  | .press (.operator _) => True
  | .press .enter => s.inputState.chosen?.isSome = true ∨ ¬ s.pending.isBlank = true
  | .pick index => 0 ≤ index ∧ index < s.suggestions.length
  | _ => False

/-- What an operation does: it commits tokens, or keeps the fragment and its requests. -/
theorem perform_cases (s : Session) (op : Operation) :
    (op.IsCommit s ∧ ∃ added, added ≠ [] ∧ s.Offers added ∧ op.perform s = s.commit added) ∨
      (¬ op.IsCommit s ∧ s.Keeps (op.perform s)) := by
  cases op with
  | press key =>
    cases key with
    | enter =>
      cases chosen : s.inputState.chosen? with
      | some suggestion =>
        refine .inl ⟨.inl (by rw [chosen]; rfl), [suggestion.toToken], nofun, ?_, ?_⟩
        · exact Session.offers_singleton (InputState.chosen?_mem chosen)
        · exact Session.press_enter_chosen chosen
      | none =>
        by_cases blank : s.pending.isBlank = true
        · refine .inr ⟨?_, ?_⟩
          · rintro (some | typed)
            · rw [chosen] at some
              cases some
            · exact typed blank
          · rw [perform, Session.press_enter_blank chosen blank]
            exact Session.Keeps.refl s
        · refine .inl ⟨.inr blank, [Fragment.classify s.pending], nofun, ?_, ?_⟩
          · exact s.offers_typed
          · exact Session.press_enter_typed chosen blank
    | operator op =>
      exact .inl ⟨trivial, _, by simp, s.offers_flushed op, s.press_operator op⟩
    | backspace => exact .inr ⟨id, s.keeps_backspace⟩
    | arrowUp => exact .inr ⟨id, s.keeps_moveHighlight (-1)⟩
    | arrowDown => exact .inr ⟨id, s.keeps_moveHighlight 1⟩
    | escape => exact .inr ⟨id, s.keeps_blur⟩
    | other => exact .inr ⟨id, Session.Keeps.refl s⟩
  | pick index =>
    by_cases place : 0 ≤ index ∧ index < s.suggestions.length
    · have inside : index.toNat < s.suggestions.length := by omega
      have picked : s.suggestions[index.toNat]? = some s.suggestions[index.toNat] :=
        List.getElem?_eq_getElem inside
      refine .inl ⟨place, [s.suggestions[index.toNat].toToken], nofun, ?_, ?_⟩
      · exact Session.offers_singleton (List.getElem_mem inside)
      · rw [perform, Session.pick?_eq_some place.1 picked]
        rfl
    · refine .inr ⟨place, ?_⟩
      rw [perform, Session.pick?_eq_none place]
      exact Session.Keeps.refl s
  | blur => exact .inr ⟨id, s.keeps_blur⟩
  | clear => exact .inr ⟨id, Session.keeps_formula (Nat.zero_le _)⟩
  | edit index text =>
    refine .inr ⟨id, ?_⟩
    by_cases refused : text.isBlank = true ∨ ¬ (0 ≤ index ∧ index < s.formula.length)
    · rw [perform, Session.editToken?_eq_none refused]
      exact Session.Keeps.refl s
    · obtain ⟨typed, place⟩ := not_or.mp refused
      rw [perform, Session.editToken?_eq_some typed (Decidable.not_not.mp place)]
      exact Session.keeps_formula (Nat.le_of_eq List.length_set)
  | delete index =>
    refine .inr ⟨id, ?_⟩
    by_cases place : 0 ≤ index ∧ index < s.formula.length
    · rw [perform, Session.deleteToken?_eq_some place]
      exact Session.keeps_formula (List.length_eraseIdx_le s.formula index.toNat)
    · rw [perform, Session.deleteToken?_eq_none place]
      exact Session.Keeps.refl s

/-- The formula grows just if the operation is one of those that commit. -/
theorem commits_cases (s : Session) (op : Operation) :
    (op.commits s = true ∧ op.IsCommit s ∧
      ∃ added, s.Offers added ∧ op.perform s = s.commit added) ∨
    (op.commits s = false ∧ ¬ op.IsCommit s ∧ s.Keeps (op.perform s)) := by
  rw [commits]
  rcases op.perform_cases s with ⟨isCommit, added, nonempty, offers, performed⟩ | ⟨other, keeps⟩
  · refine .inl ⟨?_, isCommit, added, offers, performed⟩
    have longer := List.length_pos_iff.mpr nonempty
    rw [performed, Session.commit_formula, decide_eq_true_iff, List.length_append]
    omega
  · have short := keeps.formula
    exact .inr ⟨decide_eq_false (by omega), other, keeps⟩

end Operation

end FormulaEditor
