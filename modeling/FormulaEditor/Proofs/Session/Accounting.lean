import FormulaEditor.Proofs.Session.SuggestionList

/-! # What becomes of the formula

Each operation changes the formula in one way, under a condition that can be told from what the
session shows, and not at all otherwise.  For the enter key the condition is that the fragment is
not blank: a list from which a suggestion would be taken is open only then.
-/

namespace FormulaEditor

theorem Fragment.isSome_flush_iff {fragment : RawText} :
    (flush fragment).isSome = true ↔ fragment.strip ≠ "" := by
  rw [ne_eq, ← RawText.isBlank_iff, flush]
  split
  · next blank => simp [blank]
  · next typed =>
    cases fragment.toString?.bind number? <;> simp [typed]

namespace Session

variable {s : Session}

/-! ## After a commit -/

/-- Nothing is left of the fragment and of its list. -/
structure IsReset (s : Session) : Prop where
  pending : s.pending = ""
  suggestions : s.suggestions = []
  isOpen : s.suggestionsOpen = false

theorem isReset_commit (s : Session) (added : List Token) : (s.commit added).IsReset :=
  ⟨rfl, rfl, rfl⟩

theorem chosen?_eq_none_of_closed (isOpen : s.suggestionsOpen = false) :
    s.inputState.chosen? = none := by
  rw [InputState.chosen?]
  exact if_neg (by rw [inputState, isOpen]; exact Bool.false_ne_true)

theorem IsReset.press_enter (reset : s.IsReset) : (s.press .enter).1 = s := by
  refine press_enter_blank (chosen?_eq_none_of_closed reset.isOpen) ?_
  rw [reset.pending]
  rfl

/-! ## The enter key -/

theorem press_enter_of_not_blank (typed : ¬ s.pending.isBlank = true) :
    ∃ token, (s.press .enter).1 = s.commit [token] := by
  cases chosen : s.inputState.chosen? with
  | some suggestion => exact ⟨_, press_enter_chosen chosen⟩
  | none => exact ⟨_, press_enter_typed chosen typed⟩

theorem Coherent.press_enter_of_blank (coherent : s.Coherent) (blank : s.pending.isBlank = true) :
    (s.press .enter).1 = s := by
  refine press_enter_blank (chosen?_eq_none_of_closed ?_) blank
  -- An open list would be that of a fragment which is not blank.
  cases isOpen : s.suggestionsOpen with
  | false => rfl
  | true => exact absurd blank (coherent.typed (.inl isOpen))

theorem Coherent.press_enter_twice (coherent : s.Coherent) :
    ((s.press .enter).1.press .enter).1 = (s.press .enter).1 := by
  by_cases blank : s.pending.isBlank = true
  · rw [coherent.press_enter_of_blank blank, coherent.press_enter_of_blank blank]
  · obtain ⟨token, committed⟩ := press_enter_of_not_blank blank
    rw [committed]
    exact (isReset_commit s [token]).press_enter

/-! ## All operations -/

/-- What becomes of the formula, for each operation.  An operation that is refused answers so and
leaves the session as it is. -/
structure Accounts (s : Session) : Prop where
  enter : s.pending.strip ≠ "" →
    ∃ token, (s.press .enter).1.formula = s.formula ++ [token] ∧ (s.press .enter).1.IsReset
  enter_blank : s.pending.strip = "" → (s.press .enter).1 = s
  enter_twice : ((s.press .enter).1.press .enter).1 = (s.press .enter).1
  operator : ∀ op,
    (s.press (.operator op)).1.formula =
      s.formula ++ (Fragment.flush s.pending).toList ++ [.operator op] ∧
    (s.press (.operator op)).1.IsReset
  flush : (Fragment.flush s.pending).isSome = true ↔ s.pending.strip ≠ ""
  backspace : s.pending = "" → s.formula ≠ [] →
    (s.press .backspace).1.formula = s.formula.dropLast
  backspace_kept : ¬ (s.pending = "" ∧ s.formula ≠ []) →
    (s.press .backspace).1.formula = s.formula
  other_keys : ∀ key ∈ [Key.arrowUp, .arrowDown, .escape, .other],
    (s.press key).1.formula = s.formula
  pick : ∀ index : Int, 0 ≤ index → index < s.suggestions.length →
    ∃ next suggestion, s.suggestions[index.toNat]? = some suggestion ∧
      s.pick? index = some next ∧
      next.formula = s.formula ++ [.variable suggestion.id suggestion.name (.int 0)]
  pick_refused : ∀ index : Int, ¬ (0 ≤ index ∧ index < s.suggestions.length) →
    s.pick? index = none ∧ (Operation.pick index).perform s = s
  edit : ∀ (index : Int) (text : RawText), text.strip ≠ "" → 0 ≤ index →
    index < s.formula.length → s.editToken? index text =
      some { s with formula := s.formula.set index.toNat (Fragment.classify text) }
  edit_refused : ∀ (index : Int) (text : RawText),
    ¬ (text.strip ≠ "" ∧ 0 ≤ index ∧ index < s.formula.length) →
      s.editToken? index text = none ∧ (Operation.edit index text).perform s = s
  delete : ∀ index : Int, 0 ≤ index → index < s.formula.length →
    s.deleteToken? index = some { s with formula := s.formula.eraseIdx index.toNat }
  delete_refused : ∀ index : Int, ¬ (0 ≤ index ∧ index < s.formula.length) →
    s.deleteToken? index = none ∧ (Operation.delete index).perform s = s
  clear : s.clear.formula = []
  blur : s.blur.formula = s.formula
  start : ∀ text, (s.begin text).1.formula = s.formula
  arrive : ∀ request found, (s.arrive request found).1.formula = s.formula

theorem moveHighlight_formula (s : Session) (step : Int) :
    (s.apply (s.inputState.moveHighlight step)).formula = s.formula := by
  rcases s.inputState.moveHighlight_cases step with same | ⟨highlight, -, -, moved⟩
  · rw [same]
    rfl
  · rw [moved]
    rfl

theorem Coherent.accounts (coherent : s.Coherent) : s.Accounts where
  enter typed := by
    rw [ne_eq, ← RawText.isBlank_iff] at typed
    obtain ⟨token, committed⟩ := press_enter_of_not_blank typed
    rw [committed]
    exact ⟨token, rfl, isReset_commit s [token]⟩
  enter_blank blank := coherent.press_enter_of_blank (RawText.isBlank_iff.mpr blank)
  enter_twice := coherent.press_enter_twice
  operator op := by
    rw [press_operator, List.append_assoc]
    exact ⟨rfl, isReset_commit s _⟩
  flush := Fragment.isSome_flush_iff
  backspace empty tokens := by rw [press_backspace_empty empty tokens]
  backspace_kept kept := by rw [press_backspace_kept kept]
  other_keys key member := by
    simp only [List.mem_cons, List.not_mem_nil, or_false] at member
    rcases member with rfl | rfl | rfl | rfl
    · exact s.moveHighlight_formula (-1)
    · exact s.moveHighlight_formula 1
    · rfl
    · rfl
  pick index least most := by
    have picked := List.getElem?_eq_getElem (l := s.suggestions) (i := index.toNat) (by omega)
    exact ⟨_, _, picked, pick?_eq_some least picked, rfl⟩
  pick_refused index outside := by
    have refused := pick?_eq_none outside
    exact ⟨refused, by rw [Operation.perform, refused]; rfl⟩
  edit index text typed least most := by
    rw [ne_eq, ← RawText.isBlank_iff] at typed
    exact editToken?_eq_some typed ⟨least, most⟩
  edit_refused index text outside := by
    rw [ne_eq, ← RawText.isBlank_iff, Decidable.not_and_iff_not_or_not] at outside
    have refused := editToken?_eq_none (outside.imp_left Decidable.not_not.mp)
    exact ⟨refused, by rw [Operation.perform, refused]; rfl⟩
  delete index least most := deleteToken?_eq_some ⟨least, most⟩
  delete_refused index outside := by
    have refused := deleteToken?_eq_none outside
    exact ⟨refused, by rw [Operation.perform, refused]; rfl⟩
  clear := rfl
  blur := rfl
  start text := by rw [begin_session]
  arrive request found := by rw [arrive_session]

end Session

namespace World

/-- In every world that a new session comes to, whatever lookups have returned or failed, all
operations account for what becomes of the formula. -/
theorem formula_accounting {formula : Formula} {bindings : Bindings} {events : List Event}
    {w : World} (ran : (World.new formula bindings).run events = some w) : w.session.Accounts :=
  (coherent_of_run ran).session.accounts

/-- A lookup returns while a token is edited, and its list is moved over. -/
def editedMeanwhile : List Event :=
  [.operate (.press (.operator .minus)), .start "re", .operate (.edit 0 "7"),
    .arrive 0 [⟨"4", "rate"⟩, ⟨"17", "revenue"⟩], .operate (.press .arrowUp)]

theorem formula_accounting_editedMeanwhile :
    ∃ w, (World.new [] []).run editedMeanwhile = some w ∧ w.session.formula = [.number (.int 7)] ∧
      (∃ token, (w.session.press .enter).1.formula = [.number (.int 7), token]) ∧
      ((w.session.press .enter).1.press .enter).1 = (w.session.press .enter).1 := by
  have ran : (World.new [] []).run editedMeanwhile = some
      ⟨{ formula := [.number (.int 7)], pending := "re",
         suggestions := [⟨"4", "rate"⟩, ⟨"17", "revenue"⟩], suggestionsOpen := true,
         highlighted := 1, number := 2 },
        [⟨"re", .returned [⟨"4", "rate"⟩, ⟨"17", "revenue"⟩] true, false⟩]⟩ := by decide
  have accounts := formula_accounting ran
  obtain ⟨token, entered, -⟩ := accounts.enter (by decide)
  exact ⟨_, ran, rfl, ⟨token, entered⟩, accounts.enter_twice⟩

end World

end FormulaEditor
