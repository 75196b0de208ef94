import FormulaEditor.Proofs.Json.Nesting
import FormulaEditor.Proofs.Remote.Answer
import FormulaEditor.Proofs.Text.Blank
import FormulaEditor.Provider

/-! # What a lookup promises

A lookup at a service finds what a search of the suggestions in its answer finds, and everything that
goes wrong is answered with no suggestions and one warning.  The one exception is an answer that
holds more containers in one another than there is room for, which ends the lookup.
-/

namespace FormulaEditor.Remote

/-! ## What a service can do -/

/-- The service answers the query with a list of entries. -/
inductive Answers (address query : String) : Reply → List Json → Prop where
  | intro {a : Address} {status : Int} {body : String} {v : Json} {entries : List Json}
      (asked : askable (Text.strip address) query = .ok a) (absolute : a.isAbsolute = true)
      (success : 200 ≤ status ∧ status ≤ 299) (denotes : Json.Denotes body v)
      (list : GivesList v entries) : Answers address query (.response status body) entries

/-- The service fails to answer the query with a list, the given requests having been sent. -/
inductive Fails (address query : String) : Reply → List (List (String × String)) → Prop where
  /-- the address cannot be asked -/
  | unasked {reply : Reply} {fault : LookupFault}
      (refused : askable (Text.strip address) query = .error fault) : Fails address query reply []
  | transport {a : Address} {name : String} (asked : askable (Text.strip address) query = .ok a) :
      Fails address query (.failure (.transport name)) [[("query", query)]]
  | value {a : Address} {message : String} (asked : askable (Text.strip address) query = .ok a) :
      Fails address query (.failure (.value message)) [[("query", query)]]
  | relative {a : Address} {status : Int} {body : String}
      (asked : askable (Text.strip address) query = .ok a) (relative : a.isAbsolute = false) :
      Fails address query (.response status body) [[("query", query)]]
  | status {a : Address} {status : Int} {body : String}
      (asked : askable (Text.strip address) query = .ok a)
      (unsuccessful : ¬ (200 ≤ status ∧ status ≤ 299)) :
      Fails address query (.response status body) [[("query", query)]]
  | unreadable {a : Address} {status : Int} {body : String}
      (asked : askable (Text.strip address) query = .ok a)
      (unreadable : ∀ v, ¬ Json.Denotes body v) :
      Fails address query (.response status body) [[("query", query)]]
  | noList {a : Address} {status : Int} {body : String} {v : Json}
      (asked : askable (Text.strip address) query = .ok a) (denotes : Json.Denotes body v)
      (noList : ∀ entries, ¬ GivesList v entries) :
      Fails address query (.response status body) [[("query", query)]]

/-- Whatever the service does is one or the other, unless it is a failure of another kind. -/
theorem answers_or_fails (address query : String) (reply : Reply) :
    (∃ entries, Answers address query reply entries) ∨
      (∃ requests, Fails address query reply requests) ∨
      ∃ message, reply = .failure (.other message) := by
  cases asked : askable (Text.strip address) query with
  | error fault => exact .inr (.inl ⟨_, .unasked asked⟩)
  | ok a =>
    cases reply with
    | failure f =>
      cases f with
      | transport name => exact .inr (.inl ⟨_, .transport asked⟩)
      | value message => exact .inr (.inl ⟨_, .value asked⟩)
      | other message => exact .inr (.inr ⟨message, rfl⟩)
    | response status body =>
      cases absolute : a.isAbsolute with
      | false => exact .inr (.inl ⟨_, .relative asked absolute⟩)
      | true =>
        by_cases success : 200 ≤ status ∧ status ≤ 299
        · by_cases denoted : ∃ v, Json.Denotes body v
          · obtain ⟨v, denotes⟩ := denoted
            by_cases listed : ∃ entries, GivesList v entries
            · obtain ⟨entries, list⟩ := listed
              exact .inl ⟨entries, .intro asked absolute success denotes list⟩
            · exact .inr (.inl ⟨_, .noList asked denotes (not_exists.mp listed)⟩)
          · exact .inr (.inl ⟨_, .unreadable asked (not_exists.mp denoted)⟩)
        · exact .inr (.inl ⟨_, .status asked success⟩)

/-! ## The promise -/

/-- What a lookup is to do with a query at an address, the service doing what it does. -/
structure Promise (address query : String) (reply : Reply) (report : Report) : Prop where
  /-- A blank query is not sent. -/
  blankQuery : Text.isBlankText query = true → report = { result := .ok [] }
  /-- Nothing is sent without an address. -/
  blankAddress : Text.isBlankText query = false → Text.isBlankText address = true →
    report = { result := .ok [], warnings := [.noAddress] }
  /-- A list is asked for once, and searched like a catalogue of the suggestions in it; each other
  entry is skipped with a warning. -/
  found : Text.isBlankText query = false → Text.isBlankText address = false →
    ∀ entries suggestions skipped, Answers address query reply entries →
      Sifts entries suggestions skipped →
      report =
        { result := ((Provider.catalogue suggestions).lookup query).1
          requests := [[("query", query)]]
          warnings := List.replicate skipped .skippedEntry }
  /-- A failure finds nothing, with one warning. -/
  failed : Text.isBlankText query = false → Text.isBlankText address = false →
    ∀ requests, Fails address query reply requests →
      ∃ fault, report = { result := .ok [], requests, warnings := [.failed fault] }

/-- The service answers with success, and with a body in which too many containers are in one
another. -/
inductive BreaksOff (address query : String) : Reply → Prop where
  | intro {a : Address} {status : Int} {body : String}
      (typed : Text.isBlankText query = false) (given : Text.isBlankText address = false)
      (asked : askable (Text.strip address) query = .ok a) (absolute : a.isAbsolute = true)
      (success : 200 ≤ status ∧ status ≤ 299) (deep : Json.NestsTooDeep body) :
      BreaksOff address query (.response status body)

section Steps

variable {address query : String} {reply : Reply} {a : Address} {status : Int} {body : String}

theorem lookup_of_blank (blank : Text.isBlankText query = true) :
    lookup address query reply = { result := .ok [] } := by
  rw [lookup, if_pos blank]

theorem lookup_of_blank_address (typed : Text.isBlankText query = false)
    (blank : Text.isBlankText address = true) :
    lookup address query reply = { result := .ok [], warnings := [.noAddress] } := by
  rw [lookup, if_neg (Bool.eq_false_iff.mp typed), if_pos (Text.isBlankText_iff.mp blank)]

theorem strip_ne_empty (given : Text.isBlankText address = false) : Text.strip address ≠ "" := by
  rw [Ne, ← Text.isBlankText_iff, given]
  exact Bool.false_ne_true

theorem lookup_of_asked (typed : Text.isBlankText query = false)
    (given : Text.isBlankText address = false)
    (asked : askable (Text.strip address) query = .ok a) :
    lookup address query reply = receive a query reply := by
  rw [lookup, if_neg (Bool.eq_false_iff.mp typed), if_neg (strip_ne_empty given), asked]

theorem lookup_of_refused (typed : Text.isBlankText query = false)
    (given : Text.isBlankText address = false) {fault : LookupFault}
    (refused : askable (Text.strip address) query = .error fault) :
    lookup address query reply =
      { result := .ok [], warnings := [.failed fault] } := by
  rw [lookup, if_neg (Bool.eq_false_iff.mp typed), if_neg (strip_ne_empty given), refused]
  rfl

theorem isSuccess_iff : isSuccess status = true ↔ 200 ≤ status ∧ status ≤ 299 := by
  rw [isSuccess, Bool.and_eq_true, decide_eq_true_iff, decide_eq_true_iff]

theorem receive_response (absolute : a.isAbsolute = true) :
    receive a query (.response status body) =
      match entries status body with
      | .error (.fault f) => .failed [[("query", query)]] f
      | .error (.breakdown b) => { result := .error b, requests := [[("query", query)]] }
      | .ok items =>
        { result := .ok (Suggestion.search (validEntries items) query)
          requests := [[("query", query)]], warnings := skipWarnings items } := by
  rw [receive, absolute]
  rfl

theorem entries_of_deep (success : isSuccess status = true) (deep : Json.NestsTooDeep body) :
    ∃ b, entries status body = .error (.breakdown b) := by
  obtain ⟨container, deep⟩ := deep
  rw [entries, success, deep]
  exact ⟨_, rfl⟩

theorem entries_eq_ok_iff (fits : isSuccess status = true → ¬ Json.NestsTooDeep body)
    {items : List Json} :
    entries status body = .ok items ↔
      isSuccess status = true ∧ ∃ v, Json.Denotes body v ∧ GivesList v items := by
  rw [entries]
  cases success : isSuccess status with
  | false => simp
  | true =>
    simp only [Json.denotes_iff (fits success), ← listOf?_eq_some_iff]
    cases Json.readBody body with
    | error e => simp
    | ok v => cases found : listOf? v <;> simp [found]

theorem exists_fault_of_entries (fits : isSuccess status = true → ¬ Json.NestsTooDeep body)
    {e : AnswerFault} (failed : entries status body = .error e) : ∃ fault, e = .fault fault := by
  rw [entries] at failed
  cases success : isSuccess status with
  | false =>
    rw [success] at failed
    cases failed
    exact ⟨_, rfl⟩
  | true =>
    rw [success] at failed
    cases read : Json.readBody body with
    | error f =>
      rw [read] at failed
      cases failed
      cases f with
      | tooDeep container => exact absurd ⟨container, read⟩ (fits success)
      | _ => exact ⟨_, rfl⟩
    | ok v =>
      rw [read] at failed
      cases found : listOf? v with
      | some items =>
        simp only [found] at failed
        cases failed
      | none =>
        simp only [found] at failed
        cases failed
        exact ⟨_, rfl⟩

/-- A response without a list is a failure, unless it nests too deep. -/
theorem receive_response_fails
    (fits : a.isAbsolute = true → isSuccess status = true → ¬ Json.NestsTooDeep body)
    (noList : a.isAbsolute = true → isSuccess status = true →
      ∀ v, Json.Denotes body v → ∀ items, ¬ GivesList v items) :
    ∃ fault, receive a query (.response status body) =
      { result := .ok [], requests := [[("query", query)]], warnings := [.failed fault] } := by
  cases absolute : a.isAbsolute with
  | false =>
    rw [receive, absolute]
    exact ⟨_, rfl⟩
  | true =>
    rw [receive_response absolute]
    cases found : entries status body with
    | ok items =>
      obtain ⟨success, v, denotes, list⟩ := (entries_eq_ok_iff (fits absolute)).mp found
      exact absurd list (noList absolute success v denotes items)
    | error e =>
      obtain ⟨fault, rfl⟩ := exists_fault_of_entries (fits absolute) found
      exact ⟨fault, rfl⟩

end Steps

section Promise

variable {address query : String} {reply : Reply}

theorem fits_of_not_breaksOff {a : Address} {status : Int} {body : String}
    (typed : Text.isBlankText query = false) (given : Text.isBlankText address = false)
    (unbroken : ¬ BreaksOff address query (.response status body))
    (asked : askable (Text.strip address) query = .ok a) (absolute : a.isAbsolute = true)
    (success : isSuccess status = true) : ¬ Json.NestsTooDeep body := fun deep =>
  unbroken (.intro typed given asked absolute (isSuccess_iff.mp success) deep)

theorem Answers.report_eq (typed : Text.isBlankText query = false)
    (given : Text.isBlankText address = false) (unbroken : ¬ BreaksOff address query reply)
    {entries : List Json} (answers : Answers address query reply entries)
    {suggestions : List Suggestion} {skipped : Nat} (sifts : Sifts entries suggestions skipped) :
    lookup address query reply =
      { result := ((Provider.catalogue suggestions).lookup query).1
        requests := [[("query", query)]]
        warnings := List.replicate skipped .skippedEntry } := by
  cases answers with
  | intro asked absolute success denotes list =>
    have fits := fits_of_not_breaksOff typed given unbroken asked absolute
    have found := (entries_eq_ok_iff fits).mpr ⟨isSuccess_iff.mpr success, _, denotes, list⟩
    obtain ⟨rfl, skips⟩ := sifts.eq_validEntries
    rw [lookup_of_asked typed given asked, receive_response absolute, found, ← skips]
    rfl

theorem Fails.report_eq (typed : Text.isBlankText query = false)
    (given : Text.isBlankText address = false) (unbroken : ¬ BreaksOff address query reply)
    {requests : List (List (String × String))} (fails : Fails address query reply requests) :
    ∃ fault, lookup address query reply =
      { result := .ok [], requests, warnings := [.failed fault] } := by
  cases fails with
  | unasked refused => exact ⟨_, lookup_of_refused typed given refused⟩
  | transport asked => exact ⟨_, lookup_of_asked typed given asked⟩
  | value asked => exact ⟨_, lookup_of_asked typed given asked⟩
  | relative asked relative =>
    rw [lookup_of_asked typed given asked]
    exact receive_response_fails (fits_of_not_breaksOff typed given unbroken asked)
      fun absolute => absurd absolute (Bool.eq_false_iff.mp relative)
  | status asked unsuccessful =>
    rw [lookup_of_asked typed given asked]
    exact receive_response_fails (fits_of_not_breaksOff typed given unbroken asked)
      fun _ success => absurd (isSuccess_iff.mp success) unsuccessful
  | unreadable asked unreadable =>
    rw [lookup_of_asked typed given asked]
    exact receive_response_fails (fits_of_not_breaksOff typed given unbroken asked)
      fun _ _ v denotes => absurd denotes (unreadable v)
  | noList asked denotes noList =>
    rw [lookup_of_asked typed given asked]
    exact receive_response_fails (fits_of_not_breaksOff typed given unbroken asked)
      fun _ _ v denotes' => denotes.unique denotes' ▸ noList

theorem lookup_of_breaksOff (breaks : BreaksOff address query reply) :
    ∃ b, lookup address query reply = { result := .error b, requests := [[("query", query)]] } := by
  cases breaks with
  | intro typed given asked absolute success deep =>
    obtain ⟨b, broken⟩ := entries_of_deep (isSuccess_iff.mpr success) deep
    rw [lookup_of_asked typed given asked, receive_response absolute, broken]
    exact ⟨b, rfl⟩

/-- A lookup keeps its promise unless the answer nests too deep. -/
theorem lookup_keeps_promise_iff (address query : String) (reply : Reply) :
    Promise address query reply (lookup address query reply) ↔
      ¬ BreaksOff address query reply := by
  constructor
  · intro promise breaks
    -- Whatever the answer is taken for, the promise is a result, and there is none.
    obtain ⟨b, broken⟩ := lookup_of_breaksOff breaks
    cases breaks with
    | intro typed given =>
      rcases answers_or_fails address query (.response _ _) with
        ⟨entries, answers⟩ | ⟨requests, fails⟩ | ⟨message, same⟩
      · have kept := promise.found typed given entries _ _ answers (sifts_validEntries entries)
        cases broken.symm.trans kept
      · obtain ⟨fault, kept⟩ := promise.failed typed given requests fails
        cases broken.symm.trans kept
      · cases same
  · intro unbroken
    exact {
      blankQuery := lookup_of_blank
      blankAddress := lookup_of_blank_address
      found := fun typed given _ _ _ answers sifts => answers.report_eq typed given unbroken sifts
      failed := fun typed given _ fails => fails.report_eq typed given unbroken }

end Promise

/-! ## An answer that nests too deep -/

theorem answers_nestText (n : Nat) :
    Answers "http://h/" "a" (.response 200 (Json.nestText (n + 1))) [Json.nest n] := by
  have asked : ∃ a, askable (Text.strip "http://h/") "a" = .ok a ∧ a.isAbsolute = true :=
    ⟨_, rfl, rfl⟩
  obtain ⟨a, asked, absolute⟩ := asked
  exact .intro asked absolute (by decide) (Json.denotes_nestText (n + 1)) (.bare [Json.nest n])

theorem sifts_nest (n : Nat) : Sifts [Json.nest n] [] 1 := by
  refine .skipped ?_ .nil
  rintro s ⟨members, id, same, -⟩
  cases n <;> cases same

theorem breaksOff_nestText {n : Nat} (deep : Json.nestingLimit ≤ n + 1) :
    BreaksOff "http://h/" "a" (.response 200 (Json.nestText (n + 1))) := by
  cases answers_nestText n with
  | intro asked absolute success =>
    exact .intro rfl rfl asked absolute success ((Json.nestsTooDeep_nestText_iff _).mpr deep)

/-- The answer is a list of one entry, which is an array and so no suggestion: it is to be skipped
with a warning.  Since it holds so many other arrays, the lookup is ended instead. -/
theorem lookup_breaks_promise_on_nested_arrays :
    Answers "http://h/" "a" (.response 200 (Json.nestText 2999)) [Json.nest 2998] ∧
      Sifts [Json.nest 2998] [] 1 ∧
      (∃ b, (lookup "http://h/" "a" (.response 200 (Json.nestText 2999))).result = .error b) ∧
      ¬ Promise "http://h/" "a" (.response 200 (Json.nestText 2999))
        (lookup "http://h/" "a" (.response 200 (Json.nestText 2999))) := by
  have answers := answers_nestText 2998
  have sifts := sifts_nest 2998
  obtain ⟨b, broken⟩ := lookup_of_breaksOff (breaksOff_nestText (n := 2998) (by decide))
  refine ⟨answers, sifts, ⟨b, congrArg Report.result broken⟩, fun promise => ?_⟩
  cases broken.symm.trans (promise.found rfl rfl _ _ _ answers sifts)

end FormulaEditor.Remote
