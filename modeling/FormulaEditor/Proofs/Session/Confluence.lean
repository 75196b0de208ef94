import FormulaEditor.Proofs.Session.Run

/-! # Typing is confluent

While texts are typed one after another, their lookups return early or late and in any order.  Each
new text wipes out all that the texts before it have left, and raises the number above those of
their lookups; so the last text and what its lookup finds decide what the session comes to, and it
comes to the same if the last text is set alone.
-/

namespace FormulaEditor

namespace Session

/-- The sessions hold and show the same.  Their numbers, which say how many requests and commits
there have been, may differ. -/
def Agrees (s s' : Session) : Prop := s' = { s with number := s'.number }

/-- The session that has been given a text and what the lookup for it finds. -/
def answered (s : Session) (text : RawText) (found : List Suggestion) : Session :=
  { s with
    pending := text, suggestions := if text.isBlank then [] else found,
    suggestionsOpen := !text.isBlank, highlighted := 0, loading := false, number := s.number + 1 }

theorem begin_of_blank (s : Session) {text : RawText} (found : List Suggestion)
    (blank : text.isBlank = true) : (s.begin text).1 = s.answered text found := by
  rw [begin_session, answered, blank]
  rfl

theorem awaits_begin (s : Session) (text : RawText) :
    (s.begin text).1.awaits ⟨text, s.number + 1⟩ = true := by
  rw [awaits_iff, begin_number, begin_pending]
  exact ⟨rfl, rfl⟩

theorem arrive_begin (s : Session) {text : RawText} (found : List Suggestion)
    (typed : ¬ text.isBlank = true) :
    ((s.begin text).1.arrive ⟨text, s.number + 1⟩ found).1 = s.answered text found := by
  rw [arrive_eq_of_awaits found (s.awaits_begin text), begin_session, answered]
  rw [Bool.not_eq_true] at typed
  simp [typed]

end Session

/-! ## Typing -/

/-- The text that the event sets. -/
def Event.text? : Event → Option RawText
  | .start text => some text
  | _ => none

/-- The event can happen while inputs are typed, `before` calls having been made before: a text is
set, or a lookup returns.  What the lookups find is given with the inputs; those that were started
before may find anything. -/
def Event.OfTyping (before : Nat) (inputs : List (RawText × List Suggestion)) : Event → Prop
  | .start _ => True
  | .arrive i found => i < before ∨ inputs[i - before]?.map Prod.snd = some found
  | _ => False

instance (before : Nat) (inputs : List (RawText × List Suggestion)) :
    DecidablePred (Event.OfTyping before inputs) := fun event => by
  cases event <;> simp only [Event.OfTyping] <;> infer_instance

namespace World

/-- A run that types texts, each given with what its lookup finds.  All lookups that are started
for them have returned at the end, in whatever order. -/
structure Typing (w : World) (inputs : List (RawText × List Suggestion)) (events : List Event)
    (final : World) : Prop where
  ran : w.run events = some final
  texts : events.filterMap Event.text? = inputs.map Prod.fst
  ofTyping : ∀ event ∈ events, event.OfTyping w.calls.length inputs
  returned : ∀ call ∈ final.calls.drop w.calls.length, call.request? = none

theorem Typing.waiting?_eq_none {w final : World} {inputs : List (RawText × List Suggestion)}
    {events : List Event} (typing : w.Typing inputs events final) {i : Nat}
    (own : w.calls.length ≤ i) : final.waiting? i = none := by
  rw [waiting?, Option.bind_eq_none_iff]
  intro call found
  have member : call ∈ final.calls.drop w.calls.length := by
    rw [List.mem_iff_getElem?]
    exact ⟨i - w.calls.length, by rw [List.getElem?_drop, Nat.add_sub_cancel' own, found]⟩
  rw [typing.returned call member, Option.map_none]

/-! ### Up to the last text -/

/-- The world has come from another one by typing texts: neither formula nor bindings have changed,
and there is a request and a call for each text. -/
structure Follows (w v : World) (texts : Nat) : Prop where
  formula : v.session.formula = w.session.formula
  bindings : v.session.bindings = w.session.bindings
  number : v.session.number = w.session.number + texts
  calls : v.calls.length = w.calls.length + texts

theorem follows_of_step {w next : World} {event : Event} {before : Nat}
    {inputs : List (RawText × List Suggestion)} (ofTyping : event.OfTyping before inputs)
    (stepped : w.step event = some next) : w.Follows next event.text?.toList.length := by
  cases event with
  | start text =>
    cases stepped
    refine ⟨?_, ?_, ?_, ?_⟩
    · change (w.session.begin text).1.formula = w.session.formula
      rw [Session.begin_session]
    · change (w.session.begin text).1.bindings = w.session.bindings
      rw [Session.begin_session]
    · exact w.session.begin_number text
    · simp [Event.text?]
  | arrive i found =>
    obtain ⟨call, request, -, rfl⟩ := step_arrive_eq_some stepped
    have same := w.session.arrive_session request found
    refine ⟨?_, ?_, ?_, ?_⟩
    · rw [same]
    · rw [same]
    · rw [same]
      rfl
    · rw [List.length_set]
      rfl
  | fail i => exact ofTyping.elim
  | operate op => exact ofTyping.elim

theorem follows_of_run {w v : World} {events : List Event} {before : Nat}
    {inputs : List (RawText × List Suggestion)}
    (ofTyping : ∀ event ∈ events, event.OfTyping before inputs) (ran : w.run events = some v) :
    w.Follows v (events.filterMap Event.text?).length := by
  induction events generalizing w with
  | nil =>
    cases ran
    exact ⟨rfl, rfl, rfl, rfl⟩
  | cons event rest ih =>
    rw [run, Option.bind_eq_some_iff] at ran
    obtain ⟨next, stepped, ran⟩ := ran
    have first := follows_of_step (ofTyping event List.mem_cons_self) stepped
    have others := ih (fun other member => ofTyping other (List.mem_cons_of_mem event member)) ran
    have count : ((event :: rest).filterMap Event.text?).length =
        event.text?.toList.length + (rest.filterMap Event.text?).length := by
      rw [List.filterMap_cons]
      cases event.text? with
      | none => simp
      | some text => simp [Nat.add_comm]
    refine ⟨others.formula.trans first.formula, others.bindings.trans first.bindings, ?_, ?_⟩
    · rw [others.number, first.number, count, Nat.add_assoc]
    · rw [others.calls, first.calls, count, Nat.add_assoc]

/-! ### Behind the last text -/

/-- Since a text was set in the world `v` there have been lookups only: the session still waits for
that of the text, or has been given what it found. -/
structure Answering (v : World) (text : RawText) (found : List Suggestion) (w : World) : Prop where
  earlier : ∀ i call request, i ≠ v.calls.length → w.waiting? i = some (call, request) →
    request.number ≤ v.session.number
  last : (∃ call, w.waiting? v.calls.length = some (call, ⟨text, v.session.number + 1⟩) ∧
      ¬ text.isBlank = true ∧ w.session = (v.session.begin text).1) ∨
    (w.waiting? v.calls.length = none ∧ w.session = v.session.answered text found)

variable {v w next : World} {text : RawText} {found : List Suggestion}

theorem Answering.start (timely : v.Timely) (text : RawText) (found : List Suggestion)
    (stepped : v.step (.start text) = some w) : v.Answering text found w := by
  constructor
  · intro i call request other under
    rcases waiting?_of_step stepped under with ⟨_, -, -, last, -⟩ | ⟨before, under⟩
    · exact absurd last other
    · exact timely i before request under
  · by_cases blank : text.isBlank = true
    · refine .inr ⟨?_, ?_⟩
      · cases stepped
        rw [waiting?_start, if_pos rfl, Call.request?_made,
          Session.begin_request?_of_blank _ blank, Option.map_none]
      · cases stepped
        exact v.session.begin_of_blank found blank
    · obtain ⟨call, under⟩ := waiting?_of_start blank stepped
      cases stepped
      exact .inl ⟨call, under, blank, rfl⟩

theorem Answering.arrive (answering : v.Answering text found w) {i : Nat}
    {others : List Suggestion} (own : i = v.calls.length → others = found)
    (stepped : w.step (.arrive i others) = some next) : v.Answering text found next := by
  constructor
  · intro j other request' different under'
    rcases waiting?_of_step stepped under' with ⟨_, same, -⟩ | ⟨before, under'⟩
    · cases same
    · exact answering.earlier j before request' different under'
  obtain ⟨call, request, under, rfl⟩ := step_arrive_eq_some stepped
  rw [waiting?_set _ _ rfl]
  by_cases last : i = v.calls.length
  -- The session has been waiting for this very lookup.
  · subst last
    obtain rfl := own rfl
    rcases answering.last with ⟨awaited, waits, typed, session⟩ | ⟨ended, -⟩
    · rw [under] at waits
      cases waits
      refine .inr ⟨if_pos rfl, ?_⟩
      rw [session, Session.arrive_begin _ _ typed]
    · rw [under] at ended
      cases ended
  -- Any other lookup has a number that the session has left behind.
  · have bound := answering.earlier i call request last under
    have ignored : (w.session.arrive request others).1 = w.session := by
      rw [Session.arrive_of_not_awaits]
      rw [Session.awaits_iff]
      intro awaited
      have current : w.session.number = v.session.number + 1 := by
        rcases answering.last with ⟨-, -, -, session⟩ | ⟨-, session⟩
        · rw [session, Session.begin_number]
        · rw [session]
          rfl
      omega
    rw [if_neg last, ignored]
    exact answering.last

theorem Answering.session_eq (answering : v.Answering text found w)
    (returned : w.waiting? v.calls.length = none) :
    w.session = v.session.answered text found := by
  rcases answering.last with ⟨call, under, -⟩ | ⟨-, session⟩
  · rw [returned] at under
    cases under
  · exact session

/-! ### All of it -/

variable {inputs : List (RawText × List Suggestion)} {events : List Event} {final : World}

/-- A run that types texts is cut at the last one: it is set when all others have been, and behind
it there are returning lookups only. -/
theorem Typing.exists_last (typing : w.Typing (inputs ++ [(text, found)]) events final) :
    ∃ front v begun rest, w.run front = some v ∧ w.Follows v inputs.length ∧
      v.step (.start text) = some begun ∧ begun.run rest = some final ∧
      ∀ event ∈ rest, ∃ i others, event = .arrive i others ∧
        (i = v.calls.length → others = found) := by
  have texts := typing.texts
  rw [List.map_append, List.filterMap_eq_append_iff] at texts
  obtain ⟨front, back, rfl, frontTexts, backTexts⟩ := texts
  rw [List.map_singleton, List.filterMap_eq_cons_iff] at backTexts
  obtain ⟨more, event, rest, rfl, moreTexts, eventText, restTexts⟩ := backTexts
  obtain rfl : event = .start text := by
    cases event <;> cases eventText
    rfl
  have moreTexts := List.filterMap_eq_nil_iff.mpr moreTexts
  have restTexts := List.filterMap_eq_nil_iff.mp restTexts
  have ran := typing.ran
  have ofTyping := typing.ofTyping
  rw [← List.append_assoc] at ran ofTyping
  rw [run_append, Option.bind_eq_some_iff] at ran
  obtain ⟨v, ranFront, ran⟩ := ran
  rw [run, Option.bind_eq_some_iff] at ran
  obtain ⟨begun, stepped, ran⟩ := ran
  have follows :=
    follows_of_run (fun other member => ofTyping other (List.mem_append_left _ member)) ranFront
  rw [List.filterMap_append, frontTexts, moreTexts, List.append_nil, List.length_map] at follows
  refine ⟨front ++ more, v, begun, rest, ranFront, follows, stepped, ran, ?_⟩
  intro other member
  have fits := ofTyping other (List.mem_append_right _ (List.mem_cons_of_mem _ member))
  cases other with
  | start text => cases restTexts _ member
  | arrive i others =>
    refine ⟨i, others, rfl, fun last => ?_⟩
    rw [last, follows.calls] at fits
    rcases fits with early | own
    · omega
    · rw [Nat.add_sub_cancel_left, List.getElem?_concat_length] at own
      cases own
      rfl
  | fail i => exact fits.elim
  | operate op => exact fits.elim

/-- What the session comes to is decided by the last text and what its lookup finds. -/
theorem Typing.session_eq (timely : w.Timely)
    (typing : w.Typing (inputs ++ [(text, found)]) events final) :
    final.session =
      { w.session.answered text found with
        number := w.session.number + inputs.length + 1 } := by
  obtain ⟨front, v, begun, rest, ranFront, follows, stepped, ran, arrivals⟩ := typing.exists_last
  have answering := Answering.start (timely.run ranFront) text found stepped
  have answered : v.Answering text found final := by
    refine run_preserves_on (fun event member u next answering stepped => ?_) answering ran
    obtain ⟨i, others, rfl, own⟩ := arrivals event member
    exact answering.arrive own stepped
  have returned : final.waiting? v.calls.length = none := by
    rw [follows.calls]
    exact typing.waiting?_eq_none (Nat.le_add_right _ _)
  rw [answered.session_eq returned, Session.answered, Session.answered, follows.formula,
    follows.bindings, follows.number]

/-- A text can be typed alone. -/
theorem exists_typing_singleton (w : World) (text : RawText) (found : List Suggestion) :
    ∃ events final, w.Typing [(text, found)] events final := by
  by_cases blank : text.isBlank = true
  · refine ⟨[.start text], _, rfl, rfl, ?_, ?_⟩
    · simp [Event.OfTyping]
    · simp [Session.begin_request?_of_blank _ blank, Call.request?_made]
  · have begun : w.step (.start text) = some ⟨(w.session.begin text).1,
        w.calls ++ [.made text (w.session.begin text).2]⟩ := rfl
    obtain ⟨call, under⟩ := waiting?_of_start blank begun
    have ran := (run_cons begun _).trans (run_cons (step_arrive under found) [])
    refine ⟨[.start text, .arrive w.calls.length found], _, ran, rfl, ?_, ?_⟩
    · simp [Event.OfTyping]
    · simp [Call.request?]

/-- From whatever a session has come to, with whatever lookups still under way: texts typed one
after another bring it to the same in every order in which their lookups return, and to what the
last text alone brings it to. -/
theorem typing_confluent {s : Session} {before : List Event}
    (reached : (World.mk s []).run before = some w)
    (typing : w.Typing (inputs ++ [(text, found)]) events final) :
    (∀ otherInputs otherEvents otherFinal,
      w.Typing (otherInputs ++ [(text, found)]) otherEvents otherFinal →
        otherFinal.session.Agrees final.session) ∧
    ∃ aloneEvents alone, w.Typing [(text, found)] aloneEvents alone ∧
      alone.session.Agrees final.session := by
  have timely := (timely_of_calls_eq_nil s).run reached
  have session := typing.session_eq timely
  have agrees : ∀ otherInputs otherEvents otherFinal,
      w.Typing (otherInputs ++ [(text, found)]) otherEvents otherFinal →
        otherFinal.session.Agrees final.session := by
    intro otherInputs otherEvents otherFinal other
    rw [Session.Agrees, session, other.session_eq timely]
  obtain ⟨aloneEvents, alone, typed⟩ := w.exists_typing_singleton text found
  exact ⟨agrees, aloneEvents, alone, typed, agrees [] aloneEvents alone typed⟩

/-- A session that has the list of an earlier text, after a text was set whose lookup is under
way. -/
def waitingForCost : World :=
  ⟨{ formula := [.operator .minus], pending := "c", suggestionsOpen := true, loading := true,
     number := 1 },
    [⟨"c", .waiting ⟨"c", 1⟩, false⟩]⟩

/-- Two more texts are typed, and all three lookups return, the last one first. -/
def overlapping : List Event :=
  [.start "r", .start "re", .arrive 2 [⟨"17", "revenue"⟩], .arrive 0 [⟨"3", "cost"⟩],
    .arrive 1 [⟨"4", "rate"⟩]]

def overlappingInputs : List (RawText × List Suggestion) := [("r", [⟨"4", "rate"⟩])]

theorem typing_confluent_overlapping :
    (World.mk { formula := [.operator .minus], suggestions := [⟨"9", "x"⟩] } []).run
        [.start "c"] = some waitingForCost ∧
      ∃ final, waitingForCost.Typing
          (overlappingInputs ++ [(RawText.whole "re", [Suggestion.mk "17" "revenue"])])
          overlapping final ∧
        final.session.suggestions = [⟨"17", "revenue"⟩] ∧
        ∃ aloneEvents alone,
          waitingForCost.Typing [("re", [⟨"17", "revenue"⟩])] aloneEvents alone ∧
            alone.session.Agrees final.session := by
  have reached : (World.mk { formula := [.operator .minus], suggestions := [⟨"9", "x"⟩] } []).run
      [.start "c"] = some waitingForCost := by decide
  have typing : waitingForCost.Typing
      (overlappingInputs ++ [(RawText.whole "re", [Suggestion.mk "17" "revenue"])])
      overlapping
      ⟨{ formula := [.operator .minus], pending := "re", suggestions := [⟨"17", "revenue"⟩],
         suggestionsOpen := true, number := 3 },
        [⟨"c", .returned [⟨"3", "cost"⟩] false, false⟩,
          ⟨"r", .returned [⟨"4", "rate"⟩] false, false⟩,
          ⟨"re", .returned [⟨"17", "revenue"⟩] true, false⟩]⟩ :=
    ⟨by decide, by decide, by decide, by decide⟩
  exact ⟨reached, _, typing, rfl, (typing_confluent reached typing).2⟩

end World

end FormulaEditor
