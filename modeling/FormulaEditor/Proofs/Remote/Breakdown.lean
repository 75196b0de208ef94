import FormulaEditor.Proofs.Remote.Lookup

/-! # When a lookup gives no list

A lookup is to give a list of suggestions whatever happens on the way.  Two things end it instead: a
failure of the service that no lookup deals with, and an answer of the service, given with success,
that holds too many containers in one another.  Everything else that can go wrong, from the address
to the entries of the answer, gives a list.
-/

namespace FormulaEditor

namespace Remote

/-! ## One lookup -/

/-- The lookup of the query is ended by what the service does. -/
inductive Ends (address query : String) : Reply → Breakdown → Prop where
  /-- by a failure that no lookup deals with -/
  | other {a : Address} {message : String} (typed : Text.isBlankText query = false)
      (given : Text.isBlankText address = false)
      (asked : askable (Text.strip address) query = .ok a) :
      Ends address query (.failure (.other message)) (.other message)
  /-- by an answer that nests too deep -/
  | tooDeep {a : Address} {status : Int} {body : String} {container : Json.Container}
      (typed : Text.isBlankText query = false) (given : Text.isBlankText address = false)
      (asked : askable (Text.strip address) query = .ok a) (absolute : a.isAbsolute = true)
      (success : 200 ≤ status ∧ status ≤ 299)
      (deep : Json.readBody body = .error (.tooDeep container)) :
      Ends address query (.response status body) (.tooDeep container)

variable {address query : String} {reply : Reply} {a : Address} {status : Int} {body : String}
  {b : Breakdown}

theorem entries_eq_breakdown_iff :
    entries status body = .error (.breakdown b) ↔
      isSuccess status = true ∧
        ∃ container, Json.readBody body = .error (.tooDeep container) ∧ .tooDeep container = b := by
  rw [entries]
  cases isSuccess status with
  | false => simp
  | true =>
    cases Json.readBody body with
    | ok v => cases found : listOf? v <;> simp [found]
    | error e => cases e <;> simp [AnswerFault.ofBody]

/-- What ends a lookup once the request has been sent. -/
theorem receive_eq_error_iff :
    (receive a query reply).result = .error b ↔
      (∃ message, reply = .failure (.other message) ∧ .other message = b) ∨
        ∃ status body container, reply = .response status body ∧ a.isAbsolute = true ∧
          isSuccess status = true ∧ Json.readBody body = .error (.tooDeep container) ∧
            .tooDeep container = b := by
  cases reply with
  | failure f => cases f <;> simp [receive, Report.failed]
  | response status body =>
    cases absolute : a.isAbsolute with
    | false => simp [receive, Report.failed, absolute]
    | true =>
      have broken : entries status body = .error (.breakdown b) ↔ _ := entries_eq_breakdown_iff
      rw [receive_response absolute]
      cases found : entries status body with
      | ok items => simp_all
      | error e => cases e <;> simp_all [Report.failed]

/-- The result of a lookup is a failure just if something ends it. -/
theorem lookup_eq_error_iff :
    (lookup address query reply).result = .error b ↔ Ends address query reply b := by
  constructor
  · intro failed
    cases typed : Text.isBlankText query with
    | true =>
      rw [lookup_of_blank typed] at failed
      cases failed
    | false =>
      cases given : Text.isBlankText address with
      | true =>
        rw [lookup_of_blank_address typed given] at failed
        cases failed
      | false =>
        cases asked : askable (Text.strip address) query with
        | error fault =>
          rw [lookup_of_refused typed given asked] at failed
          cases failed
        | ok a =>
          rw [lookup_of_asked typed given asked, receive_eq_error_iff] at failed
          obtain ⟨message, rfl, rfl⟩ | ⟨status, body, container, rfl, absolute, success, deep, rfl⟩ :=
            failed
          · exact .other typed given asked
          · exact .tooDeep typed given asked absolute (isSuccess_iff.mp success) deep
  · intro ends
    cases ends with
    | other typed given asked =>
      rw [lookup_of_asked typed given asked, receive_eq_error_iff]
      exact .inl ⟨_, rfl, rfl⟩
    | tooDeep typed given asked absolute success deep =>
      rw [lookup_of_asked typed given asked, receive_eq_error_iff]
      exact .inr ⟨_, _, _, rfl, absolute, isSuccess_iff.mpr success, deep, rfl⟩

/-- A reply that every lookup deals with. -/
def Reply.IsDealtWith : Reply → Prop
  | .failure (.other _) => False
  | .failure _ => True
  | .response status body => 200 ≤ status ∧ status ≤ 299 → ¬ Json.NestsTooDeep body

theorem Reply.IsDealtWith.not_ends (dealt : reply.IsDealtWith) : ¬ Ends address query reply b := by
  intro ends
  cases ends with
  | other => exact dealt
  | tooDeep typed given asked absolute success deep => exact dealt success ⟨_, deep⟩

end Remote

/-! ## Lookups in turn -/

namespace Service

open Remote (Report Reply Breakdown Ends)

/-- What the lookups of queries in turn report. -/
def lookups (s : Service) : List String → List Report
  | [] => []
  | query :: rest => (s.lookup query).1 :: (s.lookup query).2.lookups rest

/-- The service after the lookups of queries in turn. -/
def after (s : Service) (queries : List String) : Service :=
  queries.foldl (fun s query => (s.lookup query).2) s

theorem lookups_append (s : Service) (before behind : List String) :
    s.lookups (before ++ behind) = s.lookups before ++ (s.after before).lookups behind := by
  induction before generalizing s with
  | nil => rfl
  | cons query rest ih => simp [lookups, after, ih]

theorem length_lookups (s : Service) (queries : List String) :
    (s.lookups queries).length = queries.length := by
  induction queries generalizing s with
  | nil => rfl
  | cons query rest ih => simp [lookups, ih]

/-- Lookups change neither the address nor the script. -/
theorem after_keeps (s : Service) (queries : List String) :
    (s.after queries).address = s.address ∧ (s.after queries).script = s.script := by
  induction queries generalizing s with
  | nil => exact ⟨rfl, rfl⟩
  | cons query rest ih => exact ih (s.lookup query).2

/-- The report of each lookup is that of the query, the service doing what comes next in its
script. -/
theorem getElem?_lookups (s : Service) (before behind : List String) (query : String) :
    (s.lookups (before ++ query :: behind))[before.length]? =
      some (Remote.lookup s.address query (s.after before).nextReply) := by
  rw [lookups_append, List.getElem?_append_right (Nat.le_of_eq (s.length_lookups before)),
    length_lookups, Nat.sub_self, lookups, List.getElem?_cons_zero, lookup,
    (s.after_keeps before).1]

theorem isDealtWith_nextReply {s : Service} (dealt : ∀ reply ∈ s.script, reply.IsDealtWith) :
    s.nextReply.IsDealtWith := by
  rw [nextReply]
  split
  · next reply found => exact dealt reply (List.mem_of_getElem? found)
  · cases last : s.script.getLast? with
    | none => trivial
    | some reply => exact dealt reply (List.mem_of_getLast? last)

/-- The lookups of queries in turn at a service, whatever its address and its script.  Each has a
report, and its result is a failure just if what the service does then ends the lookup; so all of
them give lists just if nothing ends any of them.  This is so for all queries if the script holds
only replies that every lookup deals with. -/
theorem lookups_return_iff (s : Service) (queries : List String) :
    (∀ before query behind, queries = before ++ query :: behind →
      ∃ report, (s.lookups queries)[before.length]? = some report ∧
        ∀ b, report.result = .error b ↔ Ends s.address query (s.after before).nextReply b) ∧
    ((∀ report ∈ s.lookups queries, ∃ found, report.result = .ok found) ↔
      ∀ before query behind, queries = before ++ query :: behind →
        ∀ b, ¬ Ends s.address query (s.after before).nextReply b) ∧
    ((∀ reply ∈ s.script, reply.IsDealtWith) →
      ∀ report ∈ s.lookups queries, ∃ found, report.result = .ok found) := by
  have all_return : (∀ report ∈ s.lookups queries, ∃ found, report.result = .ok found) ↔
      ∀ before query behind, queries = before ++ query :: behind →
        ∀ b, ¬ Ends s.address query (s.after before).nextReply b := by
    constructor
    · rintro returns before query behind rfl b ends
      have place := s.getElem?_lookups before behind query
      obtain ⟨found, given⟩ := returns _ (List.mem_of_getElem? place)
      rw [Remote.lookup_eq_error_iff.mpr ends] at given
      cases given
    · intro unended report member
      obtain ⟨i, inside, rfl⟩ := List.getElem_of_mem member
      rw [length_lookups] at inside
      have split : queries = queries.take i ++ queries[i] :: queries.drop (i + 1) := by
        rw [← List.drop_eq_getElem_cons inside, List.take_append_drop]
      have place := s.getElem?_lookups (queries.take i) (queries.drop (i + 1)) queries[i]
      rw [← split, List.length_take_of_le (Nat.le_of_lt inside)] at place
      rw [(List.getElem?_eq_some_iff.mp place).2]
      cases given : (Remote.lookup s.address queries[i] _).result with
      | ok found => exact ⟨found, rfl⟩
      | error b => exact absurd (Remote.lookup_eq_error_iff.mp given) (unended _ _ _ split b)
  refine ⟨?_, all_return, fun dealt => all_return.mpr ?_⟩
  · rintro before query behind rfl
    exact ⟨_, s.getElem?_lookups before behind query, fun b => Remote.lookup_eq_error_iff⟩
  · rintro before query behind - b
    refine Remote.Reply.IsDealtWith.not_ends (isDealtWith_nextReply ?_)
    rw [(s.after_keeps before).2]
    exact dealt

/-- The service fails in a way that no lookup deals with, and the lookup gives no list. -/
theorem lookup_broken_by_other_failure :
    ∃ report, Service.lookups ⟨"http://h/", [.failure (.other "boom")], 0⟩ ["a"] = [report] ∧
      ∀ found, report.result ≠ .ok found :=
  ⟨_, rfl, nofun⟩

end Service

end FormulaEditor
