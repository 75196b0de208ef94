import FormulaEditor.Proofs.Session.LastRequest
import FormulaEditor.Session.Typing

/-! # The loading flag

A session is loading from a call on until its lookup returns, or until another call or a commit makes
that lookup superfluous.  It takes no notice of a lookup that fails: if it was loading for that one,
it goes on loading, though there may be nothing left to wait for, up to the next call or commit.

All this holds as well if actions of any form are carried out besides the events of a run.
-/

namespace FormulaEditor

/-! ## Histories -/

/-- What can happen to a session: an event of a run, or an action of any form that is carried
out. -/
inductive Happening where
  | event (event : Event)
  | act (action : InputAction)
  deriving DecidableEq, Repr

/-- No lookup that was started before is of use any longer: there is a new fragment, or the fragment
has been cleared. -/
def Happening.Supersedes (s : Session) : Happening → Prop
  | .event (.start _) => True
  | .event (.operate op) => op.IsCommit s
  | .event _ => False
  | .act action => action.clearPending = true

/-- A lookup was started for the call, and it has not returned. -/
def Call.IsUnanswered (call : Call) : Prop :=
  (∃ request, call.progress = .waiting request) ∨ call.progress = .failed

theorem Call.not_isUnanswered_of_returned {call : Call} {found : List Suggestion} {taken : Bool} :
    ¬ IsUnanswered { call with progress := .returned found taken } := by
  rintro (⟨request, waiting⟩ | failed)
  · cases waiting
  · cases failed

theorem Call.made_progress_ne_failed (text : RawText) (request? : Option Request) :
    (made text request?).progress ≠ .failed := by
  cases request? <;> simp [made]

theorem Call.isUnanswered_made (text : RawText) (request? : Option Request) :
    (made text request?).IsUnanswered ↔ request?.isSome = true := by
  cases request? with
  | none => simp [IsUnanswered, made]
  | some request => simp [IsUnanswered, made]

namespace World

/-- The world after a happening. An action that clears the fragment leaves all calls behind, as a
commit does. -/
def happen (w : World) : Happening → Option World
  | .event event => w.step event
  | .act action =>
    some ⟨w.session.apply action,
      if action.clearPending then w.calls.map fun call => { call with committed := true }
      else w.calls⟩

/-- The world after happenings in a row. -/
def happens (w : World) (happenings : List Happening) : Option World :=
  happenings.foldlM happen w

variable {w next final : World} {happening : Happening} {happenings : List Happening}

/-- What all happenings preserve holds at the end. -/
theorem happens_preserves {P : World → Prop}
    (preserved : ∀ happening ∈ happenings, ∀ w next, P w → happen w happening = some next → P next)
    (start : P w) (lived : w.happens happenings = some final) : P final := by
  induction happenings generalizing w with
  | nil =>
    cases lived
    exact start
  | cons happening rest ih =>
    simp only [happens, List.foldlM_cons, Option.bind_eq_bind, Option.bind_eq_some_iff] at lived
    obtain ⟨next, happened, lived⟩ := lived
    have first := preserved happening List.mem_cons_self w next start happened
    exact ih (fun other member => preserved other (List.mem_cons_of_mem happening member)) first lived

theorem happens_of_run {events : List Event} (ran : w.run events = some final) :
    w.happens (events.map .event) = some final := by
  induction events generalizing w with
  | nil => exact ran
  | cons event rest ih =>
    simp only [run, Option.bind_eq_some_iff] at ran
    obtain ⟨next, stepped, ran⟩ := ran
    simp only [happens, List.map_cons, List.foldlM_cons, happen, stepped]
    exact ih ran

/-! ## What can happen -/

/-- What the happenings do to the session and to its calls, as far as the loading flag goes: a call
is made, the lookup of a call ends, everything that was started before is superseded, or nothing
changes. -/
inductive Moves (w : World) : Happening → World → Prop where
  | begun (text : RawText) : Moves w (.event (.start text))
      ⟨(w.session.begin text).1, w.calls ++ [.made text (w.session.begin text).2]⟩
  | taken {i : Nat} {call : Call} {request : Request} (found : List Suggestion)
      (under : w.waiting? i = some (call, request)) (awaited : w.session.awaits request = true) :
      Moves w (.event (.arrive i found)) ⟨(w.session.arrive request found).1,
        w.calls.set i { call with progress := .returned found true }⟩
  | dropped {i : Nat} {call : Call} {request : Request} (found : List Suggestion)
      (under : w.waiting? i = some (call, request)) (stale : ¬ w.session.awaits request = true) :
      Moves w (.event (.arrive i found))
        ⟨w.session, w.calls.set i { call with progress := .returned found false }⟩
  | failed {i : Nat} {call : Call} {request : Request}
      (under : w.waiting? i = some (call, request)) : Moves w (.event (.fail i))
        ⟨w.session, w.calls.set i { call with progress := .failed }⟩
  | superseded {happening : Happening} {s : Session}
      (supersedes : happening.Supersedes w.session) (number : s.number = w.session.number + 1)
      (loading : s.loading = false) : Moves w happening
        ⟨s, w.calls.map fun call => { call with committed := true }⟩
  | kept {happening : Happening} {s : Session} (keeps : ¬ happening.Supersedes w.session)
      (other : ∀ i, happening ≠ .event (.fail i)) (number : s.number = w.session.number)
      (pending : s.pending = w.session.pending) (loading : s.loading = w.session.loading) :
      Moves w happening ⟨s, w.calls⟩

theorem act_fields (s : Session) (action : InputAction) :
    (s.act action).number = s.number ∧ (s.act action).pending = s.pending ∧
      (s.act action).loading = s.loading := by
  rw [Session.act]
  split <;> exact ⟨rfl, rfl, rfl⟩

theorem moves_of_act (w : World) (action : InputAction) :
    Moves w (.act action) ⟨w.session.apply action,
      if action.clearPending then w.calls.map fun call => { call with committed := true }
      else w.calls⟩ := by
  obtain ⟨number, pending, loading⟩ := act_fields w.session action
  rw [Session.apply]
  cases clears : action.clearPending with
  | true =>
    cases action.closeSuggestions with
    | true => exact .superseded clears (congrArg (· + 1) number) rfl
    | false => exact .superseded clears (congrArg (· + 1) number) rfl
  | false =>
    have keeps : ¬ (Happening.act action).Supersedes w.session := by
      simp [Happening.Supersedes, clears]
    have other : ∀ i, Happening.act action ≠ .event (.fail i) := by simp
    cases action.closeSuggestions with
    | true => exact .kept keeps other number pending loading
    | false => exact .kept keeps other number pending loading

theorem moves_of_happen (happened : w.happen happening = some next) : Moves w happening next := by
  cases happening with
  | act action =>
    cases happened
    exact moves_of_act w action
  | event event =>
    cases event with
    | start text =>
      cases happened
      exact .begun text
    | arrive i found =>
      obtain ⟨call, request, under, rfl⟩ := step_arrive_eq_some happened
      by_cases awaited : w.session.awaits request = true
      · rw [(Session.arrive_of_awaits found awaited).1]
        exact .taken found under awaited
      · rw [Session.arrive_of_not_awaits found awaited]
        exact .dropped found under awaited
    | fail i =>
      obtain ⟨call, request, under, rfl⟩ := step_fail_eq_some happened
      exact .failed under
    | operate op =>
      cases happened
      rcases op.commits_cases w.session with
        ⟨commits, isCommit, added, -, performed⟩ | ⟨commits, other, keeps⟩
      · rw [if_pos commits, performed]
        exact .superseded isCommit (w.session.commit_number added) rfl
      · rw [commits, if_neg Bool.false_ne_true]
        exact .kept other nofun keeps.number keeps.pending keeps.loading

theorem Tracks.moves (tracks : w.Tracks) (moves : Moves w happening next) : next.Tracks := by
  cases moves with
  | begun text => exact tracks.start text
  | taken found under awaited =>
    obtain ⟨place, -⟩ := waiting?_eq_some_iff.mp under
    obtain ⟨-, -, pending, number⟩ := Session.arrive_of_awaits found awaited
    exact tracks.ended place (fun _ => by simp) number pending
  | dropped found under stale =>
    exact tracks.ended (waiting?_eq_some_iff.mp under).1 (fun _ => by simp) rfl rfl
  | failed under =>
    exact tracks.ended (waiting?_eq_some_iff.mp under).1 (fun _ => by simp) rfl rfl
  | superseded supersedes number loading => exact tracks.superseded number
  | kept keeps other number pending loading => exact tracks.kept number pending

/-! ## The last call -/

/-- Nothing has been committed since the last call, and this holds of it. -/
def LastCall (P : Call → Prop) (w : World) : Prop :=
  ∃ call, w.calls.getLast? = some call ∧ call.committed = false ∧ P call

section LastCall

variable {P : Call → Prop} {i : Nat} {call : Call}

theorem lastCall_iff (found : w.calls[i]? = some call) (last : i + 1 = w.calls.length) :
    w.LastCall P ↔ call.committed = false ∧ P call := by
  simp [LastCall, getLast?_eq_some_of_getElem? found last]

theorem lastCall_append (s : Session) (calls : List Call) (fresh : call.committed = false) :
    (World.mk s (calls ++ [call])).LastCall P ↔ P call := by
  simp [LastCall, fresh]

theorem lastCall_set (s : Session) (last : i + 1 = w.calls.length) (changed : Call) :
    (World.mk s (w.calls.set i changed)).LastCall P ↔ changed.committed = false ∧ P changed := by
  have inside : i < w.calls.length := by omega
  refine lastCall_iff (i := i) ?_ (by rw [List.length_set, last])
  rw [List.getElem?_set_self inside]

theorem lastCall_set_of_ne (s : Session) (other : i + 1 ≠ w.calls.length) (changed : Call) :
    (World.mk s (w.calls.set i changed)).LastCall P ↔ w.LastCall P := by
  have same : (w.calls.set i changed).getLast? = w.calls.getLast? := by
    rw [List.getLast?_eq_getElem?, List.getLast?_eq_getElem?, List.length_set, List.getElem?_set]
    split
    · rw [if_neg (by omega), List.getElem?_eq_none (by omega)]
    · rfl
  simp [LastCall, same]

theorem not_lastCall_of_committed (s : Session) (calls : List Call) :
    ¬ (World.mk s (calls.map fun call => { call with committed := true })).LastCall P := by
  rintro ⟨call, last, fresh, -⟩
  rw [List.getLast?_map, Option.map_eq_some_iff] at last
  obtain ⟨before, -, rfl⟩ := last
  cases fresh

end LastCall

/-! ## What the session is loading for -/

/-- Some lookup under way has the number of the session. -/
def AwaitsLookup (w : World) : Prop :=
  ∃ i call request, w.waiting? i = some (call, request) ∧ request.number = w.session.number

/-- The lookup of the last call has failed, and nothing has been committed since. -/
def Stranded (w : World) : Prop := w.LastCall (·.progress = .failed)

/-- The lookup of the last call has not returned, and nothing has been committed since. -/
def Unanswered (w : World) : Prop := w.LastCall Call.IsUnanswered

theorem Tracks.awaitsLookup_iff (tracks : w.Tracks) :
    w.AwaitsLookup ↔ w.LastCall fun call => ∃ request, call.progress = .waiting request := by
  constructor
  · rintro ⟨i, call, request, under, number⟩
    obtain ⟨place, waiting⟩ := waiting?_eq_some_iff.mp under
    obtain ⟨last, fresh⟩ := (tracks.waiting i call request place waiting).2.2.mp number
    exact ⟨call, getLast?_eq_some_of_getElem? place last, fresh, request, waiting⟩
  · rintro ⟨call, last, fresh, request, waiting⟩
    rw [List.getLast?_eq_getElem?] at last
    obtain ⟨inside, -⟩ := List.getElem?_eq_some_iff.mp last
    have number := (tracks.waiting _ call request last waiting).2.2.mpr ⟨by omega, fresh⟩
    exact ⟨_, call, request, waiting?_eq_some_iff.mpr ⟨last, waiting⟩, number⟩

theorem Tracks.unanswered_iff (tracks : w.Tracks) :
    w.Unanswered ↔ w.AwaitsLookup ∨ w.Stranded := by
  rw [tracks.awaitsLookup_iff]
  constructor
  · rintro ⟨call, last, fresh, waiting | failed⟩
    · exact .inl ⟨call, last, fresh, waiting⟩
    · exact .inr ⟨call, last, fresh, failed⟩
  · rintro (⟨call, last, fresh, waiting⟩ | ⟨call, last, fresh, failed⟩)
    · exact ⟨call, last, fresh, .inl waiting⟩
    · exact ⟨call, last, fresh, .inr failed⟩

theorem Tracks.not_stranded_of_awaitsLookup (tracks : w.Tracks) (awaits : w.AwaitsLookup) :
    ¬ w.Stranded := by
  obtain ⟨call, last, -, request, waiting⟩ := tracks.awaitsLookup_iff.mp awaits
  rintro ⟨other, last', -, failed⟩
  rw [last] at last'
  cases last'
  rw [waiting] at failed
  cases failed

/-! ### The flag -/

/-- The session is loading just if the last call is unanswered. -/
def Heeds (w : World) : Prop := w.session.loading = true ↔ w.Unanswered

theorem heeds_new (formula : Formula) (bindings : Bindings) :
    (World.new formula bindings).Heeds := by
  simp [Heeds, World.new, Unanswered, LastCall]

theorem Heeds.moves (heeds : w.Heeds) (tracks : w.Tracks) (moves : Moves w happening next) :
    next.Heeds := by
  cases moves with
  | begun text =>
    rw [Heeds, Unanswered, lastCall_append _ _ rfl, Call.isUnanswered_made]
    simp [Session.begin_session, Option.isSome_iff_exists, Session.begin_request?_iff]
  | taken found under awaited =>
    obtain ⟨place, waiting⟩ := waiting?_eq_some_iff.mp under
    obtain ⟨last, -⟩ := (tracks.arrive_taken_iff place waiting).mp awaited
    rw [Session.arrive_eq_of_awaits found awaited]
    refine iff_of_false Bool.false_ne_true ?_
    simp [Unanswered, lastCall_set _ last, Call.not_isUnanswered_of_returned]
  | @dropped i call request found under stale =>
    obtain ⟨place, waiting⟩ := waiting?_eq_some_iff.mp under
    rw [tracks.arrive_taken_iff place waiting] at stale
    refine Iff.trans heeds ?_
    by_cases last : i + 1 = w.calls.length
    -- Something has been committed since the last call, so it is not loaded for in any case.
    · have committed : ¬ call.committed = false := fun fresh => stale ⟨last, fresh⟩
      simp [Unanswered, lastCall_set _ last, lastCall_iff place last, committed]
    · simp [Unanswered, lastCall_set_of_ne _ last]
  | @failed i call request under =>
    obtain ⟨place, waiting⟩ := waiting?_eq_some_iff.mp under
    refine Iff.trans heeds ?_
    by_cases last : i + 1 = w.calls.length
    · simp [Unanswered, lastCall_set _ last, lastCall_iff place last, Call.IsUnanswered,
        waiting]
    · simp [Unanswered, lastCall_set_of_ne _ last]
  | superseded supersedes number loading =>
    refine iff_of_false ?_ (not_lastCall_of_committed _ _)
    rw [loading]
    exact Bool.false_ne_true
  | kept keeps other number pending loading =>
    rw [Heeds, loading]
    exact heeds

/-- In every world that a new session comes to, the session is loading just if it awaits a lookup
under way or is stranded. -/
theorem loading_iff_of_happens {formula : Formula} {bindings : Bindings}
    (lived : (World.new formula bindings).happens happenings = some w) :
    w.Tracks ∧ (w.session.loading = true ↔ w.AwaitsLookup ∨ w.Stranded) := by
  have invariant : w.Tracks ∧ w.Heeds := by
    refine happens_preserves (P := fun v => v.Tracks ∧ v.Heeds) ?_
      ⟨(lastWins_new formula bindings).toTracks, heeds_new formula bindings⟩ lived
    rintro happening - v next ⟨tracks, heeds⟩ happened
    have moves := moves_of_happen happened
    exact ⟨tracks.moves moves, heeds.moves tracks moves⟩
  obtain ⟨tracks, heeds⟩ := invariant
  exact ⟨tracks, Iff.trans heeds tracks.unanswered_iff⟩

/-! ### Failures -/

/-- A call fails by a failing lookup only. -/
theorem failed_of_moves (moves : Moves w happening next) {call : Call} (member : call ∈ next.calls)
    (failed : call.progress = .failed) :
    (∃ i, happening = .event (.fail i)) ∨ ∃ before ∈ w.calls, before.progress = .failed := by
  cases moves with
  | begun text =>
    rcases List.mem_append.mp member with earlier | made
    · exact .inr ⟨call, earlier, failed⟩
    · rw [List.mem_singleton.mp made] at failed
      exact absurd failed (Call.made_progress_ne_failed _ _)
  | taken found under awaited | dropped found under awaited =>
    rcases List.mem_or_eq_of_mem_set member with earlier | rfl
    · exact .inr ⟨call, earlier, failed⟩
    · cases failed
  | failed under => exact .inl ⟨_, rfl⟩
  | superseded supersedes number loading =>
    obtain ⟨before, earlier, rfl⟩ := List.mem_map.mp member
    exact .inr ⟨before, earlier, failed⟩
  | kept keeps other number pending loading => exact .inr ⟨call, member, failed⟩

theorem not_stranded_of_returning {formula : Formula} {bindings : Bindings}
    (lived : (World.new formula bindings).happens happenings = some w)
    (returning : ∀ i, .event (.fail i) ∉ happenings) : ¬ w.Stranded := by
  have unfailed : ∀ call ∈ w.calls, call.progress ≠ .failed := by
    refine happens_preserves (P := fun v => ∀ call ∈ v.calls, call.progress ≠ .failed) ?_
      (by simp [World.new]) lived
    intro happening occurs v next unfailed happened call member failed
    rcases failed_of_moves (moves_of_happen happened) member failed with
      ⟨i, rfl⟩ | ⟨before, earlier, failed⟩
    · exact returning i occurs
    · exact unfailed before earlier failed
  rintro ⟨call, last, -, failed⟩
  exact unfailed call (List.mem_of_getLast? last) failed

/-- A session is stranded from the failure of the lookup that it awaits on, until everything that
was started before is superseded. -/
theorem Tracks.stranded_iff_of_moves (tracks : w.Tracks) (moves : Moves w happening next) :
    next.Stranded ↔
      w.Stranded ∧ ¬ happening.Supersedes w.session ∨
        ∃ i call request, happening = .event (.fail i) ∧ w.waiting? i = some (call, request) ∧
          request.number = w.session.number := by
  cases moves with
  | begun text =>
    rw [Stranded, lastCall_append _ _ rfl]
    simp [Call.made_progress_ne_failed, Happening.Supersedes]
  | taken found under awaited =>
    obtain ⟨place, waiting⟩ := waiting?_eq_some_iff.mp under
    obtain ⟨last, -⟩ := (tracks.arrive_taken_iff place waiting).mp awaited
    simp [Stranded, lastCall_set _ last, lastCall_iff place last, waiting]
  | @dropped i call request found under stale =>
    obtain ⟨place, waiting⟩ := waiting?_eq_some_iff.mp under
    by_cases last : i + 1 = w.calls.length
    · simp [Stranded, lastCall_set _ last, lastCall_iff place last, waiting]
    · simp [Stranded, lastCall_set_of_ne _ last, Happening.Supersedes]
  | @failed i call request under =>
    obtain ⟨place, waiting⟩ := waiting?_eq_some_iff.mp under
    have awaited : (∃ j other request', Happening.event (.fail i) = .event (.fail j) ∧
        w.waiting? j = some (other, request') ∧ request'.number = w.session.number) ↔
          i + 1 = w.calls.length ∧ call.committed = false := by
      rw [← (tracks.waiting i call request place waiting).2.2]
      constructor
      · rintro ⟨j, other, request', ⟨⟩, under', number⟩
        rw [under] at under'
        cases under'
        exact number
      · exact fun number => ⟨i, call, request, rfl, under, number⟩
    rw [awaited]
    by_cases last : i + 1 = w.calls.length
    · simp [Stranded, lastCall_set _ last, lastCall_iff place last, waiting, last]
    · simp [Stranded, lastCall_set_of_ne _ last, Happening.Supersedes, last]
  | superseded supersedes number loading =>
    refine iff_of_false (not_lastCall_of_committed _ _) ?_
    rintro (⟨-, keeps⟩ | ⟨i, call, request, rfl, -⟩)
    · exact keeps supersedes
    · exact supersedes
  | kept keeps other number pending loading =>
    simp [Stranded, LastCall, keeps, other]

/-- In every world that a new session comes to, whatever happens, actions of any form and failing
lookups included: the session is loading just if it awaits a lookup under way or is stranded, and
not both; it is not stranded where all lookups return; and it is stranded from the failure of the
lookup that it awaits on, up to the next call, commit or other action that clears the fragment.  So
only a stranded session may be loading while no lookup is under way. -/
theorem loading_iff_awaiting_or_stranded {formula : Formula} {bindings : Bindings}
    (lived : (World.new formula bindings).happens happenings = some w) :
    (w.session.loading = true ↔ w.AwaitsLookup ∨ w.Stranded) ∧
    ¬ (w.AwaitsLookup ∧ w.Stranded) ∧
    ((w.session.loading = true → ∃ i under, w.waiting? i = some under) ↔
      (w.Stranded → ∃ i under, w.waiting? i = some under)) ∧
    ((∀ i, .event (.fail i) ∉ happenings) → ¬ w.Stranded) ∧
    (∀ happening next, w.happen happening = some next →
      (next.Stranded ↔
        w.Stranded ∧ ¬ happening.Supersedes w.session ∨
          ∃ i call request, happening = .event (.fail i) ∧ w.waiting? i = some (call, request) ∧
            request.number = w.session.number)) := by
  obtain ⟨tracks, loading⟩ := loading_iff_of_happens lived
  have waits : w.AwaitsLookup → ∃ i under, w.waiting? i = some under := by
    rintro ⟨i, call, request, under, -⟩
    exact ⟨i, _, under⟩
  refine ⟨loading, fun both => tracks.not_stranded_of_awaitsLookup both.1 both.2, ?_,
    not_stranded_of_returning lived, fun _ _ happened =>
      tracks.stranded_iff_of_moves (moves_of_happen happened)⟩
  rw [loading]
  constructor
  · exact fun waiting stranded => waiting (.inr stranded)
  · rintro waiting (awaits | stranded)
    · exact waits awaits
    · exact waiting stranded

/-- The lookup of the last call fails, the list is closed, and the lookup of an earlier call
returns. -/
def failedBeforeReturn : List Happening :=
  [.event (.start "r"), .event (.start "re"), .event (.fail 1), .act { closeSuggestions := true },
    .event (.arrive 0 [⟨"4", "rate"⟩])]

theorem loading_iff_awaiting_or_stranded_failedBeforeReturn :
    ∃ w, (World.new [] []).happens failedBeforeReturn = some w ∧ w.Stranded ∧
      w.session.loading = true ∧ ¬ w.AwaitsLookup := by
  have reached : ∃ w, (World.new [] []).happens failedBeforeReturn = some w ∧ w.Stranded :=
    ⟨_, rfl, _, rfl, rfl, rfl⟩
  obtain ⟨w, lived, stranded⟩ := reached
  obtain ⟨loading, apart, -⟩ := loading_iff_awaiting_or_stranded lived
  exact ⟨w, lived, stranded, loading.mpr (.inr stranded), fun awaits => apart ⟨awaits, stranded⟩⟩

/-- The lookup for the fragment fails, as it does at a service that fails in a way no lookup deals
with.  The session goes on loading, though no lookup is under way. -/
theorem loading_behind_failed_lookup :
    (∃ w, (World.new [] []).happens [.event (.start "a"), .event (.fail 0)] = some w ∧
      w.session.loading = true ∧ ¬ ∃ i under, w.waiting? i = some under) ∧
    ∃ e, (Editor.mk {} (.service ⟨"http://h/", [.failure (.other "boom")], 0⟩)).setInput "a" =
      (e, .error (.other "boom")) ∧ e.session.loading = true := by
  refine ⟨⟨_, rfl, rfl, ?_⟩, _, rfl, rfl⟩
  rintro ⟨i, under, waiting⟩
  cases i with
  | zero => cases waiting
  | succ i => cases waiting

end World

end FormulaEditor
