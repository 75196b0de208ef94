import FormulaEditor.Proofs.Session.Run

/-! # The last request wins

Lookups return in any order, but only what the last one finds is ever shown, and only until
something is committed.  The number of the session ties the two together: a lookup under way has the
number of the session just if no call and no commit has come after it.
-/

namespace FormulaEditor

/-! ## The invariant -/

namespace World

/-- The number and the fragment of the session belong to the last call, as long as nothing has been
committed since. -/
structure Tracks (w : World) : Prop where
  waiting : ∀ i call request, w.calls[i]? = some call → call.progress = .waiting request →
    request.text = call.text ∧ request.number ≤ w.session.number ∧
      (request.number = w.session.number ↔ i + 1 = w.calls.length ∧ call.committed = false)
  pending : ∀ call, w.calls.getLast? = some call → call.committed = false →
    w.session.pending = call.text

/-- So does the list. -/
structure LastWins (w : World) : Prop extends Tracks w where
  list : w.session.suggestions ≠ [] → ∃ call, w.calls.getLast? = some call ∧
    call.committed = false ∧ call.progress = .returned w.session.suggestions true

theorem lastWins_new (formula : Formula) (bindings : Bindings) :
    (World.new formula bindings).LastWins where
  waiting := nofun
  pending := nofun
  list := fun nonempty => absurd rfl nonempty

variable {w : World}

theorem getLast?_eq_some_of_getElem? {i : Nat} {call : Call} (found : w.calls[i]? = some call)
    (last : i + 1 = w.calls.length) : w.calls.getLast? = some call := by
  rw [List.getLast?_eq_getElem?, ← last]
  exact found

theorem Tracks.start (tracks : w.Tracks) (text : RawText) :
    (World.mk (w.session.begin text).1
      (w.calls ++ [.made text (w.session.begin text).2])).Tracks where
  waiting := by
    intro i call request found waiting
    rw [List.length_append, List.length_singleton, Session.begin_number]
    by_cases earlier : i < w.calls.length
    -- An earlier call has a lower number, and is no longer the last one.
    · rw [List.getElem?_append_left earlier] at found
      obtain ⟨text, bound, -⟩ := tracks.waiting i call request found waiting
      refine ⟨text, Nat.le_succ_of_le bound, ?_⟩
      constructor
      · intro same
        omega
      · intro last
        omega
    -- The new call has the number that the session has now.
    · rw [List.getElem?_append_right (Nat.not_lt.mp earlier), List.getElem?_singleton] at found
      split at found
      · next place =>
        cases found
        rw [← Call.request?_eq_some_iff] at waiting
        have started : (w.session.begin text).2 = some request := by
          cases begun : (w.session.begin text).2 with
          | none =>
            rw [begun] at waiting
            cases waiting
          | some other =>
            rw [begun] at waiting
            exact waiting
        have request := Session.begin_request started
        subst request
        refine ⟨rfl, Nat.le_refl _, ?_⟩
        constructor
        · exact fun _ => ⟨by omega, rfl⟩
        · exact fun _ => rfl
      · cases found
  pending := by
    intro call last _
    rw [List.getLast?_concat] at last
    cases last
    exact Session.begin_pending w.session text

/-- The lookup of a call can end, the number and the fragment being kept. -/
theorem Tracks.ended (tracks : w.Tracks) {i : Nat} {call : Call}
    (found : w.calls[i]? = some call) {progress : Call.Progress} (ended : ∀ other, progress ≠ .waiting other) {s : Session}
    (number : s.number = w.session.number) (fragment : s.pending = w.session.pending) :
    (World.mk s (w.calls.set i { call with progress })).Tracks where
  waiting := by
    intro j other request' found' waiting'
    rw [List.length_set, number]
    rw [List.getElem?_set] at found'
    split at found'
    · split at found'
      · cases found'
        exact absurd waiting' (ended request')
      · cases found'
    · exact tracks.waiting j other request' found' waiting'
  pending := by
    intro other last fresh
    rw [fragment]
    rw [List.getLast?_eq_getElem?, List.length_set, List.getElem?_set] at last
    split at last
    · next place =>
      split at last
      · cases last
        have last : i + 1 = w.calls.length := by omega
        exact tracks.pending call (getLast?_eq_some_of_getElem? found last) fresh
      · cases last
    · rw [← List.getLast?_eq_getElem?] at last
      exact tracks.pending other last fresh

/-- The number of the session can go up, if all calls are marked. -/
theorem Tracks.superseded (tracks : w.Tracks) {s : Session}
    (number : s.number = w.session.number + 1) :
    (World.mk s (w.calls.map fun call => { call with committed := true })).Tracks where
  waiting := by
    intro i call request found waiting
    rw [List.getElem?_map, Option.map_eq_some_iff] at found
    obtain ⟨before, found, rfl⟩ := found
    obtain ⟨text, bound, -⟩ := tracks.waiting i before request found waiting
    rw [number]
    refine ⟨text, Nat.le_succ_of_le bound, ?_⟩
    constructor
    · intro same
      omega
    · intro fresh
      cases fresh.2
  pending := by
    intro call last fresh
    rw [List.getLast?_map, Option.map_eq_some_iff] at last
    obtain ⟨before, -, rfl⟩ := last
    cases fresh

theorem Tracks.kept (tracks : w.Tracks) {s : Session} (number : s.number = w.session.number)
    (fragment : s.pending = w.session.pending) : (World.mk s w.calls).Tracks where
  waiting := by
    rw [number]
    exact tracks.waiting
  pending := by
    rw [fragment]
    exact tracks.pending

theorem Tracks.arrive_taken_iff (tracks : w.Tracks) {i : Nat} {call : Call} {request : Request}
    (found : w.calls[i]? = some call) (waiting : call.progress = .waiting request) :
    w.session.awaits request = true ↔ i + 1 = w.calls.length ∧ call.committed = false := by
  obtain ⟨text, -, current⟩ := tracks.waiting i call request found waiting
  rw [Session.awaits_iff, ← current]
  constructor
  · exact fun awaited => awaited.1
  · intro same
    obtain ⟨last, fresh⟩ := current.mp same
    -- The texts agree as well: nothing but a call or a commit changes the fragment.
    refine ⟨same, ?_⟩
    rw [text, tracks.pending call (getLast?_eq_some_of_getElem? found last) fresh]

theorem Tracks.timely (tracks : w.Tracks) : w.Timely := by
  intro i call request under
  obtain ⟨found, waiting⟩ := waiting?_eq_some_iff.mp under
  exact (tracks.waiting i call request found waiting).2.1

/-- A call whose lookup is under way can end without the session taking notice. -/
theorem LastWins.ignore (inv : w.LastWins) {i : Nat} {call : Call} {request : Request}
    (found : w.calls[i]? = some call) (waiting : call.progress = .waiting request)
    {progress : Call.Progress} (ended : ∀ other, progress ≠ .waiting other) :
    (World.mk w.session (w.calls.set i { call with progress })).LastWins where
  toTracks := inv.ended found ended rfl rfl
  list := by
    intro nonempty
    obtain ⟨other, last, fresh, returned⟩ := inv.list nonempty
    refine ⟨other, ?_, fresh, returned⟩
    rw [List.getLast?_eq_getElem?] at last ⊢
    rw [List.length_set, List.getElem?_set]
    split
    · next place =>
      -- The list is that of a call that has returned, and the one that ends here was waiting.
      rw [← place, found] at last
      cases last
      rw [waiting] at returned
      cases returned
    · exact last

/-- The lookup of the last call has returned and is taken. -/
theorem LastWins.take (inv : w.LastWins) {i : Nat} {call : Call} {request : Request}
    (found : w.calls[i]? = some call) (waiting : call.progress = .waiting request)
    (suggestions : List Suggestion) (awaited : w.session.awaits request = true) :
    (World.mk (w.session.arrive request suggestions).1
      (w.calls.set i { call with progress := .returned suggestions true })).LastWins := by
  obtain ⟨-, list, pending, number⟩ := Session.arrive_of_awaits suggestions awaited
  obtain ⟨last, fresh⟩ := (inv.arrive_taken_iff found waiting).mp awaited
  have ended : ∀ other, Call.Progress.returned suggestions true ≠ .waiting other := nofun
  refine ⟨inv.ended found ended number pending, fun _ => ?_⟩
  -- The list is now that of the last call, which is the one that returns.
  refine ⟨{ call with progress := .returned suggestions true }, ?_, fresh, ?_⟩
  · refine getLast?_eq_some_of_getElem? (i := i) ?_ (by rw [List.length_set, last])
    rw [List.getElem?_set_self (by omega)]
  · rw [list]

theorem LastWins.operate (inv : w.LastWins) (op : Operation) :
    (World.mk (op.perform w.session)
      (if op.commits w.session then w.calls.map fun call => { call with committed := true }
        else w.calls)).LastWins := by
  rcases op.commits_cases w.session with
    ⟨commits, -, added, -, performed⟩ | ⟨commits, -, keeps⟩
  -- A commit raises the number above those of all lookups and marks all calls.
  · rw [if_pos commits, performed]
    refine ⟨inv.superseded (w.session.commit_number added), fun nonempty => ?_⟩
    exact absurd (Session.commit_suggestions w.session added) nonempty
  · rw [commits, if_neg Bool.false_ne_true]
    refine ⟨inv.kept keeps.number keeps.pending, ?_⟩
    rw [keeps.suggestions]
    exact inv.list

theorem LastWins.step (inv : w.LastWins) {event : Event} {next : World}
    (stepped : World.step w event = some next) : next.LastWins := by
  cases event with
  | start text =>
    cases stepped
    refine ⟨inv.start text, fun nonempty => ?_⟩
    exact absurd (Session.begin_suggestions w.session text) nonempty
  | arrive i suggestions =>
    obtain ⟨call, request, under, rfl⟩ := step_arrive_eq_some stepped
    obtain ⟨found, waiting⟩ := waiting?_eq_some_iff.mp under
    by_cases awaited : w.session.awaits request = true
    · rw [(Session.arrive_of_awaits suggestions awaited).1]
      exact inv.take found waiting suggestions awaited
    · rw [Session.arrive_of_not_awaits suggestions awaited]
      exact inv.ignore found waiting nofun
  | fail i =>
    obtain ⟨call, request, under, rfl⟩ := step_fail_eq_some stepped
    obtain ⟨found, waiting⟩ := waiting?_eq_some_iff.mp under
    exact inv.ignore found waiting nofun
  | operate op =>
    cases stepped
    exact inv.operate op

/-- The last request wins in every world that a new session comes to. -/
theorem lastWins_of_run {formula : Formula} {bindings : Bindings} {events : List Event}
    (ran : (World.new formula bindings).run events = some w) : w.LastWins :=
  run_preserves (fun _ _ _ inv stepped => inv.step stepped) (lastWins_new formula bindings) ran

/-! ## What is shown and what is taken -/

/-- In every world that a new session comes to: a list that is not empty is what the lookup of the
last call has found, the fragment is still the text of that call, and nothing has been committed
since; a lookup that returns is taken just if its call is the last one and nothing has been
committed since, and otherwise leaves the session as it is; and a variable that an operation puts
behind the formula was found by the lookup for the fragment. -/
theorem last_request_wins {formula : Formula} {bindings : Bindings} {events : List Event}
    (ran : (World.new formula bindings).run events = some w) :
    (w.session.suggestions ≠ [] → ∃ call, w.calls.getLast? = some call ∧
      call.progress = .returned w.session.suggestions true ∧ call.text = w.session.pending ∧
      call.committed = false) ∧
    (∀ i call request found, w.calls[i]? = some call → call.progress = .waiting request →
      ∃ next taken, w.step (.arrive i found) = some next ∧
        next.calls = w.calls.set i { call with progress := .returned found taken } ∧
        (taken = true ↔ i + 1 = w.calls.length ∧ call.committed = false) ∧
        (taken = true → next.session.suggestions = found) ∧
        (taken = false → next.session = w.session)) ∧
    (∀ (op : Operation) added id name value,
      (op.perform w.session).formula = w.session.formula ++ added →
      .variable id name value ∈ added →
      ∃ call found suggestion, w.calls.getLast? = some call ∧ call.text = w.session.pending ∧
        call.progress = .returned found true ∧ call.committed = false ∧ suggestion ∈ found ∧
        suggestion.toToken = .variable id name value) := by
  have inv := lastWins_of_run ran
  have shown : w.session.suggestions ≠ [] → ∃ call, w.calls.getLast? = some call ∧
      call.progress = .returned w.session.suggestions true ∧ call.text = w.session.pending ∧
      call.committed = false := by
    intro nonempty
    obtain ⟨call, last, fresh, returned⟩ := inv.list nonempty
    exact ⟨call, last, returned, (inv.pending call last fresh).symm, fresh⟩
  refine ⟨shown, ?_, ?_⟩
  · intro i call request found place waiting
    have taken_iff := inv.arrive_taken_iff place waiting
    have under := waiting?_eq_some_iff.mpr ⟨place, waiting⟩
    refine ⟨_, (w.session.arrive request found).2, by rw [step, under]; rfl, rfl, ?_, ?_, ?_⟩
    · rw [← taken_iff]
      by_cases awaited : w.session.awaits request = true
      · simp [awaited, (Session.arrive_of_awaits found awaited).1]
      · simp [awaited, Session.arrive_of_not_awaits found awaited]
    · intro taken
      by_cases awaited : w.session.awaits request = true
      · exact (Session.arrive_of_awaits found awaited).2.1
      · rw [Session.arrive_of_not_awaits found awaited] at taken
        cases taken
    · intro refused
      by_cases awaited : w.session.awaits request = true
      · rw [(Session.arrive_of_awaits found awaited).1] at refused
        cases refused
      · exact congrArg Prod.fst (Session.arrive_of_not_awaits found awaited)
  · intro op added id name value grown member
    rcases op.perform_cases w.session with ⟨-, added', -, offers, performed⟩ | ⟨-, keeps⟩
    · rw [performed, Session.commit_formula, List.append_cancel_left_eq] at grown
      subst grown
      obtain ⟨suggestion, offered, token⟩ := offers id name value member
      obtain ⟨call, last, returned, text, fresh⟩ := shown (List.ne_nil_of_mem offered)
      exact ⟨call, _, suggestion, last, text, returned, fresh, offered, token⟩
    -- Only a commit makes the formula longer.
    · have short := keeps.formula
      have longer := List.length_pos_of_mem member
      rw [grown, List.length_append] at short
      omega

/-- A lookup for a longer text overtakes the one before it. -/
def overtaking : List Event :=
  [.start "r", .start "re", .arrive 1 [⟨"17", "revenue"⟩], .arrive 0 [⟨"4", "rate"⟩]]

theorem last_request_wins_overtaking :
    ∃ w call, (World.new [] []).run overtaking = some w ∧
      w.session.suggestions = [⟨"17", "revenue"⟩] ∧ w.calls.getLast? = some call ∧
      call.progress = .returned w.session.suggestions true ∧ call.text = w.session.pending := by
  have ran : (World.new [] []).run overtaking = some
      ⟨{ pending := "re", suggestions := [⟨"17", "revenue"⟩], suggestionsOpen := true,
         number := 2 },
        [⟨"r", .returned [⟨"4", "rate"⟩] false, false⟩,
          ⟨"re", .returned [⟨"17", "revenue"⟩] true, false⟩]⟩ := by decide
  obtain ⟨call, last, returned, text, -⟩ := (last_request_wins ran).1 nofun
  exact ⟨_, call, ran, rfl, last, returned, text⟩

end World

end FormulaEditor
