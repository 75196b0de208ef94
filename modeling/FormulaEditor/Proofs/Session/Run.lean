import FormulaEditor.Proofs.Session.Operation
import FormulaEditor.Proofs.Session.Request

/-! # Runs of a session

In a run of a session lookups are under way while other things happen, and return or fail in any
order.  A world is a session together with all calls that have set its fragment since it was new,
the first call first; an event takes one world to the next.
-/

namespace FormulaEditor

/-- How far a call has come that set the fragment. -/
inductive Call.Progress where
  /-- the fragment is blank and no lookup was started -/
  | blank
  | waiting (request : Request)
  /-- the lookup has returned; the flag is the answer of the call -/
  | returned (found : List Suggestion) (taken : Bool)
  /-- the lookup has failed, and the call with it -/
  | failed
  deriving DecidableEq, Repr

/-- A call that set the fragment. -/
structure Call where
  text : RawText
  progress : Call.Progress
  /-- something has been committed since the call was made -/
  committed : Bool
  deriving DecidableEq, Repr

/-- A session and the calls that have set its fragment. -/
structure World where
  session : Session
  calls : List Call
  deriving DecidableEq, Repr

/-- What can happen next. Calls are named by their places. -/
inductive Event where
  | start (text : RawText)
  | arrive (i : Nat) (found : List Suggestion)
  | fail (i : Nat)
  | operate (op : Operation)
  deriving DecidableEq, Repr

namespace Call

/-- The call that has just set the fragment. -/
def made (text : RawText) (request? : Option Request) : Call :=
  { text, committed := false,
    progress := match request? with
      | some request => .waiting request
      | none => .blank }

/-- The request of a call whose lookup is under way. -/
def request? (call : Call) : Option Request :=
  match call.progress with
  | .waiting request => some request
  | _ => none

theorem request?_eq_some_iff {call : Call} {request : Request} :
    call.request? = some request ↔ call.progress = .waiting request := by
  rw [Call.request?]
  split
  · next waiting => simp [waiting]
  · next other =>
    constructor
    · exact nofun
    · exact fun waiting => absurd waiting (other request)

theorem request?_made (text : RawText) (request? : Option Request) :
    (made text request?).request? = request? := by
  cases request? <;> rfl

end Call

namespace World

/-- The world of a new session. -/
def new (formula : Formula) (bindings : Bindings) : World := ⟨{ formula, bindings }, []⟩

/-- The request of a call, if its lookup is under way. -/
def waiting? (w : World) (i : Nat) : Option (Call × Request) :=
  w.calls[i]?.bind fun call => call.request?.map (call, ·)

/-- The world after an event. Only calls whose lookups are under way can return or fail. -/
def step (w : World) : Event → Option World
  | .start text =>
    some ⟨(w.session.begin text).1, w.calls ++ [.made text (w.session.begin text).2]⟩
  | .arrive i found =>
    (w.waiting? i).map fun (call, request) =>
      let (session, taken) := w.session.arrive request found
      ⟨session, w.calls.set i { call with progress := .returned found taken }⟩
  | .fail i =>
    (w.waiting? i).map fun (call, _) =>
      ⟨w.session, w.calls.set i { call with progress := .failed }⟩
  | .operate op =>
    some ⟨op.perform w.session,
      if op.commits w.session then w.calls.map fun call => { call with committed := true }
      else w.calls⟩

/-- The world after events in a row. -/
def run (w : World) : List Event → Option World
  | [] => some w
  | event :: rest => (w.step event).bind fun next => next.run rest

theorem waiting?_eq_some_iff {w : World} {i : Nat} {call : Call} {request : Request} :
    w.waiting? i = some (call, request) ↔
      w.calls[i]? = some call ∧ call.progress = .waiting request := by
  rw [waiting?, Option.bind_eq_some_iff]
  constructor
  · rintro ⟨call', found, rest⟩
    rw [Option.map_eq_some_iff] at rest
    obtain ⟨request', waiting, same⟩ := rest
    cases same
    exact ⟨found, Call.request?_eq_some_iff.mp waiting⟩
  · rintro ⟨found, waiting⟩
    exact ⟨call, found, by rw [Call.request?_eq_some_iff.mpr waiting, Option.map_some]⟩

/-! ### Calls after an event -/

theorem waiting?_start (w : World) (s : Session) (call : Call) (i : Nat) :
    (World.mk s (w.calls ++ [call])).waiting? i =
      if i = w.calls.length then call.request?.map (call, ·) else w.waiting? i := by
  rw [waiting?, waiting?]
  split
  · next last =>
    subst last
    rw [List.getElem?_concat_length, Option.bind_some]
  · next other =>
    by_cases earlier : i < w.calls.length
    · rw [List.getElem?_append_left earlier]
    · rw [List.getElem?_eq_none (by simp; omega), List.getElem?_eq_none (by omega)]

/-- A call that ends is no longer under way, and all others are as before. -/
theorem waiting?_set (w : World) (s : Session) {call : Call} (ended : call.request? = none)
    (i j : Nat) :
    (World.mk s (w.calls.set i call)).waiting? j = if i = j then none else w.waiting? j := by
  rw [waiting?, waiting?, List.getElem?_set]
  split
  · split
    · rw [Option.bind_some, ended, Option.map_none]
    · rfl
  · rfl

theorem waiting?_of_set {w : World} {s : Session} {call : Call} (ended : call.request? = none)
    {i j : Nat} {other : Call × Request}
    (under : (World.mk s (w.calls.set i call)).waiting? j = some other) :
    i ≠ j ∧ w.waiting? j = some other := by
  rw [waiting?_set w s ended] at under
  split at under
  · cases under
  · next apart => exact ⟨apart, under⟩

theorem waiting?_committed (w : World) (s : Session) (i : Nat) :
    (World.mk s (w.calls.map fun call => { call with committed := true })).waiting? i =
      (w.waiting? i).map fun (call, request) => ({ call with committed := true }, request) := by
  rw [waiting?, waiting?, List.getElem?_map]
  cases w.calls[i]? with
  | none => rfl
  | some call =>
    change (Call.request? { call with committed := true }).map _ = (call.request?.map _).map _
    rw [Option.map_map]
    rfl

theorem step_arrive {w : World} {i : Nat} {call : Call} {request : Request}
    (under : w.waiting? i = some (call, request)) (found : List Suggestion) :
    w.step (.arrive i found) = some ⟨(w.session.arrive request found).1,
      w.calls.set i
        { call with progress := .returned found (w.session.arrive request found).2 }⟩ := by
  rw [step, under]
  rfl

theorem step_arrive_eq_some {w next : World} {i : Nat} {found : List Suggestion}
    (stepped : w.step (.arrive i found) = some next) :
    ∃ call request, w.waiting? i = some (call, request) ∧
      next = ⟨(w.session.arrive request found).1,
        w.calls.set i
          { call with progress := .returned found (w.session.arrive request found).2 }⟩ := by
  rw [step, Option.map_eq_some_iff] at stepped
  obtain ⟨⟨call, request⟩, under, rfl⟩ := stepped
  exact ⟨call, request, under, rfl⟩

theorem step_fail_eq_some {w next : World} {i : Nat} (stepped : w.step (.fail i) = some next) :
    ∃ call request, w.waiting? i = some (call, request) ∧
      next = ⟨w.session, w.calls.set i { call with progress := .failed }⟩ := by
  rw [step, Option.map_eq_some_iff] at stepped
  obtain ⟨⟨call, request⟩, under, rfl⟩ := stepped
  exact ⟨call, request, under, rfl⟩

/-! ### Runs -/

theorem run_cons {w next : World} {event : Event} (stepped : w.step event = some next)
    (rest : List Event) : w.run (event :: rest) = next.run rest := by
  rw [run, stepped, Option.bind_some]

theorem run_append (w : World) (events more : List Event) :
    w.run (events ++ more) = (w.run events).bind fun next => next.run more := by
  induction events generalizing w with
  | nil => rfl
  | cons event rest ih =>
    rw [List.cons_append, run, run, Option.bind_assoc]
    exact congrArg _ (funext fun next => ih next)

/-- What all events of a run preserve holds at its end. -/
theorem run_preserves_on {P : World → Prop} {w final : World} {events : List Event}
    (preserved : ∀ event ∈ events, ∀ w next, P w → World.step w event = some next → P next)
    (start : P w) (ran : w.run events = some final) : P final := by
  induction events generalizing w with
  | nil =>
    cases ran
    exact start
  | cons event rest ih =>
    rw [run, Option.bind_eq_some_iff] at ran
    obtain ⟨next, stepped, ran⟩ := ran
    have first := preserved event List.mem_cons_self w next start stepped
    exact ih (fun other member => preserved other (List.mem_cons_of_mem event member)) first ran

/-- What every event preserves holds at the end of every run. -/
theorem run_preserves {P : World → Prop}
    (preserved : ∀ w event next, P w → World.step w event = some next → P next)
    {w final : World} {events : List Event} (start : P w) (ran : w.run events = some final) :
    P final :=
  run_preserves_on (fun event _ w next => preserved w event next) start ran

/-! ### Requests under way -/

/-- A lookup that is under way after an event has just been started, or was under way before. -/
theorem waiting?_of_step {w next : World} {event : Event} (stepped : w.step event = some next)
    {i : Nat} {call : Call} {request : Request} (under : next.waiting? i = some (call, request)) :
    (∃ text, event = .start text ∧ ¬ text.isBlank = true ∧ i = w.calls.length ∧
      request = ⟨text, w.session.number + 1⟩) ∨
    ∃ before, w.waiting? i = some (before, request) := by
  cases event with
  | start text =>
    cases stepped
    rw [waiting?_start] at under
    split at under
    · next last =>
      rw [Option.map_eq_some_iff] at under
      obtain ⟨other, made, same⟩ := under
      cases same
      rw [Call.request?_made, Session.begin_request?_iff] at made
      exact .inl ⟨text, rfl, made.1, last, made.2⟩
    · exact .inr ⟨call, under⟩
  | arrive j found =>
    obtain ⟨ending, other, -, rfl⟩ := step_arrive_eq_some stepped
    exact .inr ⟨call, (waiting?_of_set rfl under).2⟩
  | fail j =>
    obtain ⟨ending, other, -, rfl⟩ := step_fail_eq_some stepped
    exact .inr ⟨call, (waiting?_of_set rfl under).2⟩
  | operate op =>
    cases stepped
    split at under
    · rw [waiting?_committed, Option.map_eq_some_iff] at under
      obtain ⟨⟨before, other⟩, under, same⟩ := under
      cases same
      exact .inr ⟨before, under⟩
    · exact .inr ⟨call, under⟩

/-- The lookup for a fragment that is not blank is under way at once. -/
theorem waiting?_of_start {w next : World} {text : RawText} (typed : ¬ text.isBlank = true)
    (stepped : w.step (.start text) = some next) :
    ∃ call, next.waiting? w.calls.length = some (call, ⟨text, w.session.number + 1⟩) := by
  cases stepped
  rw [waiting?_start, if_pos rfl, Call.request?_made, Session.begin_request?_of_not_blank _ typed]
  exact ⟨_, rfl⟩

theorem number_le_of_step {w next : World} {event : Event} (stepped : w.step event = some next) :
    w.session.number ≤ next.session.number := by
  cases event with
  | start text =>
    cases stepped
    change w.session.number ≤ (w.session.begin text).1.number
    rw [Session.begin_number]
    exact Nat.le_succ _
  | arrive i found =>
    obtain ⟨call, request, -, rfl⟩ := step_arrive_eq_some stepped
    exact Nat.le_of_eq (w.session.arrive_number request found).symm
  | fail i =>
    obtain ⟨call, request, -, rfl⟩ := step_fail_eq_some stepped
    exact Nat.le_refl _
  | operate op =>
    cases stepped
    change w.session.number ≤ (op.perform w.session).number
    rcases op.perform_cases w.session with ⟨-, added, -, -, performed⟩ | ⟨-, keeps⟩
    · rw [performed, Session.commit_number]
      exact Nat.le_succ _
    · exact Nat.le_of_eq keeps.number.symm

/-- No lookup under way is for a number that the session has yet to come to. -/
def Timely (w : World) : Prop :=
  ∀ i call request, w.waiting? i = some (call, request) → request.number ≤ w.session.number

theorem timely_of_calls_eq_nil (s : Session) : (World.mk s []).Timely := by
  intro i call request under
  rw [waiting?_eq_some_iff] at under
  cases under.1

theorem Timely.step {w next : World} {event : Event} (timely : w.Timely)
    (stepped : w.step event = some next) : next.Timely := by
  intro i call request under
  rcases waiting?_of_step stepped under with ⟨text, rfl, -, -, rfl⟩ | ⟨before, under⟩
  · cases stepped
    exact Nat.le_of_eq (w.session.begin_number text).symm
  · exact Nat.le_trans (timely i before request under) (number_le_of_step stepped)

theorem Timely.run {w final : World} {events : List Event} (timely : w.Timely)
    (ran : w.run events = some final) : final.Timely :=
  run_preserves (fun _ _ _ timely stepped => timely.step stepped) timely ran

end World

end FormulaEditor
