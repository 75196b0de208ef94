import Mathlib.Algebra.Ring.Int.Defs
import FormulaEditor.Proofs.Session.SuggestionList

/-! # The highlight goes round

The arrow keys move the highlight of an open list by one place, and from each end of the list to the
other.  In a row of them only the number of each counts, modulo the length of the list, and the
enter key then takes the suggestion at the place that has been reached.
-/

namespace FormulaEditor

/-! ## Arrow keys -/

namespace Key

def IsArrow (key : Key) : Prop := key = .arrowUp ∨ key = .arrowDown

/-- Whether a key is an arrow key can be tested. -/
instance : DecidablePred IsArrow := fun _ => inferInstanceAs (Decidable (_ ∨ _))

/-- How far a key moves the highlight. -/
def step : Key → Int
  | .arrowUp => -1
  | .arrowDown => 1
  | _ => 0

theorem sum_step (keys : List Key) :
    (keys.map step).sum = keys.count .arrowDown - keys.count .arrowUp := by
  induction keys with
  | nil => rfl
  | cons key rest ih =>
    cases key <;> simp [step, ih] <;> omega

end Key

/-! ## Decisions on an open list -/

namespace InputState

variable {state : InputState}

theorem clamped_of_mem (least : 0 ≤ state.highlighted)
    (most : state.highlighted < state.suggestions.length) :
    state.clamped = state.highlighted := by
  rw [clamped]
  omega

/-- Wherever the highlight is, it is moved to a place on the list. -/
theorem clamped_mem (nonempty : state.suggestions ≠ []) :
    0 ≤ state.clamped ∧ state.clamped < state.suggestions.length := by
  have positive := List.length_pos_iff.mpr nonempty
  rw [clamped]
  omega

theorem decide_arrow (isOpen : state.suggestionsOpen = true) (nonempty : state.suggestions ≠ [])
    {key : Key} (arrow : key.IsArrow) :
    state.decide key =
      { kind := .moveHighlight,
        highlight := some ((state.clamped + key.step) % state.suggestions.length),
        preventDefault := true } := by
  have shown : (state.suggestionsOpen && !state.suggestions.isEmpty) = true := by
    simp [isOpen, nonempty]
  have moves : state.decide key = state.moveHighlight key.step := by
    cases arrow with
    | inl up => rw [up]; rfl
    | inr down => rw [down]; rfl
  rw [moves, moveHighlight, if_pos shown]

theorem decide_enter (isOpen : state.suggestionsOpen = true) {suggestion : Suggestion}
    (chosen : state.suggestions[state.clamped.toNat]? = some suggestion) :
    state.decide .enter = .commit .commitSuggestion [suggestion.toToken] := by
  have found : state.chosen? = some suggestion := by
    rw [chosen?, if_pos isOpen, chosen]
  show state.enter = _
  rw [enter, found]

/-- All that is decided stays on the list: an arrow key highlights a place of it, and the enter key
takes a suggestion from it. -/
structure DecidesOnList (state : InputState) : Prop where
  arrow : ∀ key : Key, key.IsArrow → ∃ highlight : Int,
    state.decide key =
      { kind := .moveHighlight, highlight := some highlight, preventDefault := true } ∧
    0 ≤ highlight ∧ highlight < state.suggestions.length
  enter : 0 ≤ state.clamped ∧ ∃ suggestion,
    state.suggestions[state.clamped.toNat]? = some suggestion ∧
    state.decide .enter = .commit .commitSuggestion [suggestion.toToken]

theorem decidesOnList (isOpen : state.suggestionsOpen = true)
    (nonempty : state.suggestions ≠ []) : state.DecidesOnList where
  arrow key arrow := by
    have positive := List.length_pos_iff.mpr nonempty
    refine ⟨_, decide_arrow isOpen nonempty arrow, ?_, ?_⟩
    · apply Int.emod_nonneg
      omega
    · apply Int.emod_lt_of_pos
      omega
  enter := by
    have place := clamped_mem nonempty
    have chosen := List.getElem?_eq_getElem (l := state.suggestions) (i := state.clamped.toNat)
      (by omega)
    exact ⟨place.1, _, chosen, decide_enter isOpen chosen⟩

end InputState

/-! ## Pressing arrow keys -/

namespace Session

variable {s : Session}

/-- A list is open, and the highlight is on it. -/
structure ShowsHighlight (s : Session) : Prop where
  isOpen : s.suggestionsOpen = true
  least : 0 ≤ s.highlighted
  most : s.highlighted < s.suggestions.length

theorem Coherent.showsHighlight (coherent : s.Coherent) (isOpen : s.suggestionsOpen = true)
    (nonempty : s.suggestions ≠ []) : s.ShowsHighlight := by
  have positive := List.length_pos_iff.mpr nonempty
  have highlighted := coherent.highlighted
  exact ⟨isOpen, by omega, by omega⟩

namespace ShowsHighlight

theorem positive (shows : s.ShowsHighlight) : (0 : Int) < s.suggestions.length := by
  have least := shows.least
  have most := shows.most
  omega

theorem clamped (shows : s.ShowsHighlight) : s.inputState.clamped = s.highlighted :=
  InputState.clamped_of_mem shows.least shows.most

/-- The highlight stays on the list wherever a remainder takes it. -/
theorem emod (shows : s.ShowsHighlight) (place : Int) :
    { s with highlighted := place % s.suggestions.length }.ShowsHighlight where
  isOpen := shows.isOpen
  least := Int.emod_nonneg _ (Int.ne_of_gt shows.positive)
  most := Int.emod_lt_of_pos _ shows.positive

theorem press_arrow (shows : s.ShowsHighlight) {key : Key} (arrow : key.IsArrow) :
    (s.press key).1 =
      { s with highlighted := (s.highlighted + key.step) % s.suggestions.length } := by
  have nonempty : s.suggestions ≠ [] := by
    apply List.length_pos_iff.mp
    have positive := shows.positive
    omega
  rw [press, InputState.decide_arrow shows.isOpen nonempty arrow, shows.clamped]
  rfl

theorem press_enter (shows : s.ShowsHighlight) {suggestion : Suggestion}
    (chosen : s.suggestions[s.highlighted.toNat]? = some suggestion) :
    (s.press .enter).1 = s.commit [suggestion.toToken] := by
  rw [← shows.clamped] at chosen
  rw [press, InputState.decide_enter shows.isOpen chosen]
  rfl

end ShowsHighlight

end Session

namespace World

variable {w : World}

theorem step_arrow (shows : w.session.ShowsHighlight) {key : Key} (arrow : key.IsArrow) :
    w.step (.operate (.press key)) = some
      { w with session := { w.session with
          highlighted :=
            (w.session.highlighted + key.step) % w.session.suggestions.length } } := by
  have pressed : (Operation.press key).perform w.session = _ := shows.press_arrow arrow
  have uncommitted : (Operation.press key).commits w.session = false := by
    rw [Operation.commits, pressed]
    simp
  rw [step, uncommitted, pressed]
  rfl

/-- Each remainder that is taken on the way can as well be taken at the end. -/
theorem run_arrows (shows : w.session.ShowsHighlight) {keys : List Key}
    (arrows : ∀ key ∈ keys, key.IsArrow) :
    w.run (keys.map fun key => .operate (.press key)) = some
      { w with session := { w.session with
          highlighted :=
            (w.session.highlighted + (keys.map Key.step).sum) %
              w.session.suggestions.length } } := by
  induction keys generalizing w with
  | nil =>
    have same := Int.emod_eq_of_lt shows.least shows.most
    simp [run, same]
  | cons key rest ih =>
    obtain ⟨arrow, others⟩ := List.forall_mem_cons.mp arrows
    have turned := shows.emod (w.session.highlighted + key.step)
    have later := ih (w := ⟨_, w.calls⟩) turned others
    rw [List.map_cons, run_cons (step_arrow shows arrow), later]
    simp [Int.add_assoc]

/-- In every world that a new session comes to, while it shows a list that is not empty: arrow keys
in any order move the highlight by their numbers, modulo the length of the list, and change nothing
else; and the enter key then puts the variable of the suggestion at that place, with the value zero,
behind the formula.  What is decided stays on the list whatever the highlight was. -/
theorem arrows_go_round {formula : Formula} {bindings : Bindings} {events : List Event}
    (ran : (World.new formula bindings).run events = some w)
    (isOpen : w.session.suggestionsOpen = true) (nonempty : w.session.suggestions ≠ []) :
    (∀ keys : List Key, (∀ key ∈ keys, key.IsArrow) →
      ∃ (place : Int) (suggestion : Suggestion),
        place = (w.session.highlighted + keys.count .arrowDown - keys.count .arrowUp) %
          w.session.suggestions.length ∧
        0 ≤ place ∧ w.session.suggestions[place.toNat]? = some suggestion ∧
        w.run (keys.map fun key => .operate (.press key)) =
          some { w with session := { w.session with highlighted := place } } ∧
        ({ w.session with highlighted := place }.press .enter).1.formula =
          w.session.formula ++ [.variable suggestion.id suggestion.name (.int 0)]) ∧
    (∀ state : InputState, state.suggestionsOpen = true → state.suggestions ≠ [] →
      state.DecidesOnList) := by
  have shows := (coherent_of_run ran).session.showsHighlight isOpen nonempty
  refine ⟨fun keys arrows => ?_, fun state => InputState.decidesOnList⟩
  have moved := run_arrows shows arrows
  rw [Key.sum_step, ← Int.add_sub_assoc] at moved
  have shows := shows.emod (w.session.highlighted + keys.count .arrowDown - keys.count .arrowUp)
  have inside := shows.most
  have chosen := List.getElem?_eq_getElem (l := w.session.suggestions) (i := Int.toNat _)
    ((Int.toNat_lt shows.least).mpr inside)
  refine ⟨_, _, rfl, shows.least, chosen, moved, ?_⟩
  rw [shows.press_enter chosen]
  rfl

/-- Two suggestions have been found. -/
def twoFound : List Event :=
  [.start "re", .arrive 0 [⟨"4", "rate"⟩, ⟨"17", "revenue"⟩], .operate (.press .arrowDown)]

theorem arrows_go_round_upThrice :
    ∃ w, (World.new [] []).run twoFound = some w ∧ w.session.highlighted = 1 ∧
      w.run ([Key.arrowUp, .arrowUp, .arrowUp].map fun key => .operate (.press key)) =
        some { w with session := { w.session with highlighted := 0 } } ∧
      ({ w.session with highlighted := 0 }.press .enter).1.formula =
        [.variable "4" "rate" (.int 0)] := by
  have ran : (World.new [] []).run twoFound = some
      ⟨{ pending := "re", suggestions := [⟨"4", "rate"⟩, ⟨"17", "revenue"⟩],
         suggestionsOpen := true, highlighted := 1, number := 1 },
        [⟨"re", .returned [⟨"4", "rate"⟩, ⟨"17", "revenue"⟩] true, false⟩]⟩ := by decide
  obtain ⟨place, suggestion, reached, -, chosen, moved, entered⟩ :=
    (arrows_go_round ran rfl nofun).1 [.arrowUp, .arrowUp, .arrowUp] (by decide)
  obtain rfl : place = 0 := reached
  cases chosen
  exact ⟨_, ran, rfl, moved, entered⟩

end World

end FormulaEditor
