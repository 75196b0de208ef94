import FormulaEditor.Session.Basic

/-! # Setting the fragment

A call that sets the fragment starts a lookup, unless the fragment is blank.  The session awaits a
lookup as long as its own number and fragment are those of the request, and takes no notice of any
other lookup that returns.
-/

namespace FormulaEditor.Session

variable {s : Session} {text : RawText} {request : Request}

/-! ## Calls -/

/-- Of what the fragment and its list were before, nothing is left. -/
theorem begin_session (s : Session) (text : RawText) :
    (s.begin text).1 =
      { s with
        pending := text, suggestions := [], suggestionsOpen := !text.isBlank, highlighted := 0,
        loading := !text.isBlank, number := s.number + 1 } := by
  rw [begin]
  split
  · next blank =>
    rw [blank]
    rfl
  · next typed =>
    rw [Bool.not_eq_true] at typed
    rw [typed]
    rfl

theorem begin_pending (s : Session) (text : RawText) : (s.begin text).1.pending = text := by
  rw [begin_session]

theorem begin_number (s : Session) (text : RawText) :
    (s.begin text).1.number = s.number + 1 := by
  rw [begin_session]

theorem begin_suggestions (s : Session) (text : RawText) :
    (s.begin text).1.suggestions = [] := by
  rw [begin_session]

/-- A lookup is started just if the fragment is not blank. -/
theorem begin_request?_iff :
    (s.begin text).2 = some request ↔ ¬ text.isBlank = true ∧ request = ⟨text, s.number + 1⟩ := by
  rw [begin]
  split
  · next blank => simp [blank]
  · next typed => simp [typed, eq_comm]

theorem begin_request?_of_blank (s : Session) (blank : text.isBlank = true) :
    (s.begin text).2 = none := by
  rw [begin, if_pos blank]

theorem begin_request?_of_not_blank (s : Session) (typed : ¬ text.isBlank = true) :
    (s.begin text).2 = some ⟨text, s.number + 1⟩ :=
  begin_request?_iff.mpr ⟨typed, rfl⟩

theorem begin_request (started : (s.begin text).2 = some request) :
    request = ⟨text, s.number + 1⟩ :=
  (begin_request?_iff.mp started).2

/-! ## Lookups that return -/

theorem awaits_iff :
    s.awaits request = true ↔ request.number = s.number ∧ request.text = s.pending := by
  rw [awaits, Bool.and_eq_true, beq_iff_eq, beq_iff_eq]

/-- A lookup that is awaited fills the list and opens nothing. -/
theorem arrive_eq_of_awaits (found : List Suggestion) (awaited : s.awaits request = true) :
    s.arrive request found =
      ({ s with
          suggestions := found, loading := false,
          highlighted := if (found.length : Int) ≤ s.highlighted then 0 else s.highlighted },
        true) := by
  rw [arrive, if_pos awaited]

theorem arrive_of_awaits (found : List Suggestion) (awaited : s.awaits request = true) :
    (s.arrive request found).2 = true ∧ (s.arrive request found).1.suggestions = found ∧
      (s.arrive request found).1.pending = s.pending ∧
      (s.arrive request found).1.number = s.number := by
  rw [arrive_eq_of_awaits found awaited]
  exact ⟨rfl, rfl, rfl, rfl⟩

theorem arrive_of_not_awaits (found : List Suggestion) (stale : ¬ s.awaits request = true) :
    s.arrive request found = (s, false) := by
  rw [arrive, if_neg stale]

/-- Whether it is awaited or not, a lookup that returns changes at most the list, the highlight and
the flag that it is under way. -/
theorem arrive_session (s : Session) (request : Request) (found : List Suggestion) :
    (s.arrive request found).1 =
      { s with
        suggestions := (s.arrive request found).1.suggestions,
        highlighted := (s.arrive request found).1.highlighted,
        loading := (s.arrive request found).1.loading } := by
  rw [arrive]
  split <;> rfl

theorem arrive_number (s : Session) (request : Request) (found : List Suggestion) :
    (s.arrive request found).1.number = s.number := by
  rw [arrive_session]

end FormulaEditor.Session
