import FormulaEditor.Proofs.Session.Loading
import FormulaEditor.Proofs.Text.Blank

/-! # The list of suggestions

The list, its highlight and its two flags are changed by calls, lookups, keys and clicks in turn.
Whatever their order, a list is shown only for a fragment that is not blank, the highlight stays on
the list, the session is loading just while it has a lookup to wait for, and nothing but a new
fragment opens the list.
-/

namespace FormulaEditor

/-! ## Sessions -/

namespace Session

/-- What the session shows of its list fits together. -/
structure Coherent (s : Session) : Prop where
  typed : s.suggestionsOpen = true ∨ s.suggestions ≠ [] → ¬ s.pending.isBlank = true
  highlighted : s.highlighted = 0 ∨ 0 ≤ s.highlighted ∧ s.highlighted < s.suggestions.length
  loading : s.loading = true → s.suggestions = []

variable {s s' : Session} {text : RawText} {request : Request}

/-- A session that shows no list is coherent. -/
theorem coherent_of_closed (isOpen : s.suggestionsOpen = false) (suggestions : s.suggestions = [])
    (highlighted : s.highlighted = 0) : s.Coherent where
  typed := by
    rw [isOpen, suggestions]
    rintro (shown | nonempty)
    · cases shown
    · exact absurd rfl nonempty
  highlighted := .inl highlighted
  loading := fun _ => suggestions

theorem coherent_commit (s : Session) (added : List Token) : (s.commit added).Coherent :=
  coherent_of_closed rfl rfl rfl

theorem coherent_begin (s : Session) (text : RawText) : (s.begin text).1.Coherent := by
  rw [begin_session]
  refine ⟨?_, .inl rfl, fun _ => rfl⟩
  rintro (shown | nonempty) blank
  · rw [Bool.not_eq_true'] at shown
    rw [shown] at blank
    cases blank
  · exact nonempty rfl

theorem Coherent.arrive (coherent : s.Coherent) (asked : ¬ request.text.isBlank = true)
    (found : List Suggestion) : (s.arrive request found).1.Coherent := by
  by_cases awaited : s.awaits request = true
  · rw [arrive_eq_of_awaits found awaited]
    refine ⟨fun _ => ?_, ?_, nofun⟩
    -- The fragment is still the one that the lookup was made for.
    · rw [(awaits_iff.mp awaited).2] at asked
      exact asked
    · dsimp only
      split
      · exact .inl rfl
      · rcases coherent.highlighted with first | ⟨least, -⟩
        · exact .inl first
        · exact .inr ⟨least, by omega⟩
  · rw [arrive_of_not_awaits found awaited]
    exact coherent

theorem Coherent.keeps (coherent : s.Coherent) (keeps : s.Keeps s') : s'.Coherent where
  typed := by
    rw [keeps.pending, keeps.suggestions]
    exact fun shown => coherent.typed (shown.imp_left keeps.isOpen)
  highlighted := by
    rw [keeps.suggestions]
    rcases keeps.highlighted with same | moved
    · rw [same]
      exact coherent.highlighted
    · exact .inr moved
  loading := by
    rw [keeps.suggestions, keeps.loading]
    exact coherent.loading

theorem Coherent.perform (coherent : s.Coherent) (op : Operation) : (op.perform s).Coherent := by
  rcases op.perform_cases s with ⟨-, added, -, -, performed⟩ | ⟨-, keeps⟩
  · rw [performed]
    exact coherent_commit s added
  · exact coherent.keeps keeps

end Session

namespace World

variable {w next : World} {event : Event}

/-! ## What is shown -/

/-- What is shown fits together, and nothing is looked up for a blank fragment. -/
structure Coherent (w : World) : Prop where
  session : w.session.Coherent
  asked : ∀ i call request, w.waiting? i = some (call, request) →
    ¬ request.text.isBlank = true

theorem coherent_new (formula : Formula) (bindings : Bindings) :
    (World.new formula bindings).Coherent where
  session := Session.coherent_of_closed rfl rfl rfl
  asked := nofun

theorem Coherent.step (coherent : w.Coherent) (stepped : w.step event = some next) :
    next.Coherent where
  session := by
    cases event with
    | start text =>
      cases stepped
      exact w.session.coherent_begin text
    | arrive i found =>
      obtain ⟨call, request, under, rfl⟩ := step_arrive_eq_some stepped
      exact coherent.session.arrive (coherent.asked i call request under) found
    | fail i =>
      obtain ⟨call, request, -, rfl⟩ := step_fail_eq_some stepped
      exact coherent.session
    | operate op =>
      cases stepped
      exact coherent.session.perform op
  asked := by
    intro i call request under
    rcases waiting?_of_step stepped under with ⟨text, -, typed, -, rfl⟩ | ⟨before, under⟩
    · exact typed
    · exact coherent.asked i before request under

theorem coherent_of_run {formula : Formula} {bindings : Bindings} {events : List Event}
    (ran : (World.new formula bindings).run events = some w) : w.Coherent :=
  run_preserves (fun _ _ _ coherent stepped => coherent.step stepped)
    (coherent_new formula bindings) ran

/-! ## What is waited for -/

/-- While all lookups return, the session is loading just if it has one to wait for. -/
theorem loading_iff_of_run {formula : Formula} {bindings : Bindings} {events : List Event}
    (ran : (World.new formula bindings).run events = some w)
    (returning : ∀ i, .fail i ∉ events) : w.session.loading = true ↔ w.AwaitsLookup := by
  have lived := happens_of_run ran
  have returns : ∀ i, .event (.fail i) ∉ events.map Happening.event := by simpa using returning
  rw [(loading_iff_of_happens lived).2]
  exact or_iff_left (not_stranded_of_returning lived returns)

/-! ## What opens the list -/

theorem opens_of_step (stepped : w.step event = some next)
    (before : w.session.suggestionsOpen = false) (after : next.session.suggestionsOpen = true) :
    ∃ text, event = .start text ∧ ¬ text.isBlank = true := by
  cases event with
  | start text =>
    cases stepped
    refine ⟨text, rfl, fun blank => ?_⟩
    change (w.session.begin text).1.suggestionsOpen = true at after
    rw [Session.begin_session, blank] at after
    cases after
  | arrive i found =>
    obtain ⟨call, request, -, rfl⟩ := step_arrive_eq_some stepped
    change (w.session.arrive request found).1.suggestionsOpen = true at after
    rw [Session.arrive_session, before] at after
    cases after
  | fail i =>
    obtain ⟨call, request, -, rfl⟩ := step_fail_eq_some stepped
    rw [before] at after
    cases after
  | operate op =>
    cases stepped
    change (op.perform w.session).suggestionsOpen = true at after
    rcases op.perform_cases w.session with ⟨-, added, -, -, performed⟩ | ⟨-, keeps⟩
    · rw [performed] at after
      cases after
    · rw [keeps.isOpen after] at before
      cases before

theorem opens_of_run {events : List Event} {final : World} (ran : w.run events = some final)
    (before : w.session.suggestionsOpen = false) (after : final.session.suggestionsOpen = true) :
    ∃ text, .start text ∈ events ∧ ¬ text.isBlank = true := by
  induction events generalizing w with
  | nil =>
    cases ran
    rw [before] at after
    cases after
  | cons event rest ih =>
    rw [run, Option.bind_eq_some_iff] at ran
    obtain ⟨next, stepped, ran⟩ := ran
    cases isOpen : next.session.suggestionsOpen with
    | false =>
      obtain ⟨text, member, typed⟩ := ih ran isOpen
      exact ⟨text, List.mem_cons_of_mem event member, typed⟩
    | true =>
      obtain ⟨text, rfl, typed⟩ := opens_of_step stepped before isOpen
      exact ⟨text, List.mem_cons_self, typed⟩

/-! ## All of it -/

/-- In every world that a new session comes to while all lookups return: a list is open or filled
only for a fragment that is not blank; the highlight is on the list, or zero if there is none; the
session is loading just while a lookup under way has its number, and then the list is empty; and
only a new fragment that is not blank opens a list that is closed, at once or later on. -/
theorem suggestion_list_coherent {formula : Formula} {bindings : Bindings} {events : List Event}
    (ran : (World.new formula bindings).run events = some w)
    (returning : ∀ i, .fail i ∉ events) :
    (w.session.suggestionsOpen = true ∨ w.session.suggestions ≠ [] →
      w.session.pending.strip ≠ "") ∧
    (w.session.suggestions = [] → w.session.highlighted = 0) ∧
    (w.session.suggestions ≠ [] →
      0 ≤ w.session.highlighted ∧ w.session.highlighted < w.session.suggestions.length) ∧
    (w.session.loading = true ↔ w.AwaitsLookup) ∧
    (w.session.loading = true → w.session.suggestions = []) ∧
    (∀ event next, w.step event = some next → w.session.suggestionsOpen = false →
      next.session.suggestionsOpen = true →
        ∃ text : RawText, event = .start text ∧ text.strip ≠ "") ∧
    (∀ more final, w.run more = some final → w.session.suggestionsOpen = false →
      final.session.suggestionsOpen = true →
        ∃ text : RawText, .start text ∈ more ∧ text.strip ≠ "") := by
  have coherent := (coherent_of_run ran).session
  simp only [ne_eq, ← RawText.isBlank_iff]
  refine ⟨coherent.typed, ?_, ?_, loading_iff_of_run ran returning, coherent.loading,
    fun _ _ => opens_of_step, fun _ _ => opens_of_run⟩
  · intro empty
    rcases coherent.highlighted with first | ⟨least, most⟩
    · exact first
    · rw [empty] at most
      change w.session.highlighted < 0 at most
      omega
  · intro nonempty
    have positive := List.length_pos_iff.mpr nonempty
    rcases coherent.highlighted with first | place
    · rw [first]
      omega
    · exact place

/-- The list is closed while its lookup is under way, and the lookup returns. -/
def closedMeanwhile : List Event :=
  [.start "re", .operate (.press .escape), .arrive 0 [⟨"4", "rate"⟩, ⟨"17", "revenue"⟩],
    .operate (.press .arrowDown)]

theorem suggestion_list_coherent_closedMeanwhile :
    ∃ w, (World.new [] []).run closedMeanwhile = some w ∧ (∀ i, .fail i ∉ closedMeanwhile) ∧
      w.session.suggestionsOpen = false ∧ w.session.suggestions ≠ [] ∧
      w.session.pending.strip ≠ "" ∧ 0 ≤ w.session.highlighted ∧
      w.session.highlighted < w.session.suggestions.length := by
  have ran : (World.new [] []).run closedMeanwhile = some
      ⟨{ pending := "re", suggestions := [⟨"4", "rate"⟩, ⟨"17", "revenue"⟩], number := 1 },
        [⟨"re", .returned [⟨"4", "rate"⟩, ⟨"17", "revenue"⟩] true, false⟩]⟩ := by decide
  have returning : ∀ i, .fail i ∉ closedMeanwhile := by simp [closedMeanwhile]
  obtain ⟨typed, -, place, -⟩ := suggestion_list_coherent ran returning
  exact ⟨_, ran, returning, rfl, nofun, typed (.inr nofun), place nofun⟩

end World

end FormulaEditor
