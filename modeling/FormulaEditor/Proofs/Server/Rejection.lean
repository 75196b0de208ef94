import FormulaEditor.Proofs.Server.Evaluation

/-! # Requests that are rejected

A request that is answered with a status from 400 to 499 has not touched the service: the session
with its tokens, its fragment, its list and the number of its last request, and the provider are what
they were.  Whatever is asked later has the answers that it would have had without it.
-/

namespace FormulaEditor.Server

/-! ## Rejections -/

/-- The request was refused, the fault being its own. -/
def Answer.isRejection : Answer → Bool
  | .reply status _ => decide (400 ≤ status) && decide (status < 500)
  | .failure _ => false

theorem Answer.isRejection_success (body : Json) : (success body).isRejection = false := by
  rw [success]
  split <;> rfl

theorem Answer.isRejection_ofEvaluation {α : Type} (result : Except EvalError α)
    (toJson : α → Json) : (ofEvaluation result toJson).isRejection = false := by
  cases result with
  | ok a => exact isRejection_success (toJson a)
  | error e => rfl

namespace App

/-- If the answer is a rejection, the service is what it was. -/
def RejectsCleanly (app : App) (handled : App × Answer) : Prop :=
  handled.2.isRejection = true → handled.1 = app

variable {app : App}

theorem rejectsCleanly_of_unchanged (answer : Answer) : app.RejectsCleanly (app, answer) :=
  fun _ => rfl

theorem rejectsCleanly_of_accepted {handled : App × Answer}
    (accepted : handled.2.isRejection = false) : app.RejectsCleanly handled := by
  intro rejected
  rw [accepted] at rejected
  cases rejected

theorem rejectsCleanly_shown (next : App) : app.RejectsCleanly next.shown :=
  rejectsCleanly_of_accepted (Answer.isRejection_ofEvaluation _ _)

theorem rejectsCleanly_checked {α : Type} {part : Checked α} {act : α → App × Answer}
    (acts : ∀ a, app.RejectsCleanly (act a)) : app.RejectsCleanly (app.checked part act) := by
  cases part with
  | ok a => exact acts a
  | error issues => exact rejectsCleanly_of_unchanged _

theorem rejectsCleanly_withBody {body : Option String} {act : Option Json → App × Answer}
    (acts : ∀ v, app.RejectsCleanly (act v)) : app.RejectsCleanly (app.withBody body act) := by
  rw [withBody]
  cases readBody body with
  | ok v => exact acts v
  | error answer => exact rejectsCleanly_of_unchanged _

/-- An operation that has nothing to operate on is rejected before the session is touched. -/
theorem rejectsCleanly_shownOr (absent : Answer) (next? : Option Session) :
    app.RejectsCleanly (app.shownOr absent next?) := by
  cases next? with
  | none => exact rejectsCleanly_of_unchanged _
  | some next => exact rejectsCleanly_shown _

theorem rejectsCleanly_setInput (text : RawText) : app.RejectsCleanly (app.setInput text) := by
  rw [App.setInput]
  split
  · exact rejectsCleanly_shown _
  · exact rejectsCleanly_of_accepted rfl

/-- Asking for suggestions uses up a reply of the provider, but is never rejected. -/
theorem rejectsCleanly_suggestions (query : String) :
    app.RejectsCleanly (app.suggestions query) := by
  rw [App.suggestions]
  split
  · exact rejectsCleanly_of_accepted (Answer.isRejection_success _)
  · exact rejectsCleanly_of_accepted rfl

theorem rejectsCleanly_perform (endpoint : Endpoint) (target : Target) (body : Option String) :
    app.RejectsCleanly (app.perform endpoint target body) := by
  cases endpoint with
  | view => exact rejectsCleanly_shown _
  | clear => exact rejectsCleanly_shown _
  | setInput => exact rejectsCleanly_withBody fun v => rejectsCleanly_checked rejectsCleanly_setInput
  | pressKey =>
    exact rejectsCleanly_withBody fun v => rejectsCleanly_checked fun key => rejectsCleanly_shown _
  | blur => exact rejectsCleanly_shown _
  | pick index => exact rejectsCleanly_checked fun i => rejectsCleanly_shownOr _ _
  | token index =>
    refine rejectsCleanly_checked fun i => ?_
    split <;> exact rejectsCleanly_of_unchanged _
  | editToken index =>
    exact rejectsCleanly_withBody fun v =>
      rejectsCleanly_checked fun (i, text) => rejectsCleanly_shownOr _ _
  | deleteToken index => exact rejectsCleanly_checked fun i => rejectsCleanly_shownOr _ _
  | evaluate =>
    exact rejectsCleanly_withBody fun v =>
      rejectsCleanly_checked fun _ => rejectsCleanly_of_unchanged _
  | suggestions => exact rejectsCleanly_suggestions _
  | health => exact rejectsCleanly_of_unchanged _
  | documentation => exact rejectsCleanly_of_unchanged _

theorem rejectsCleanly_handle (request : Request) : app.RejectsCleanly (app.handle request) := by
  rw [handle]
  split
  · rw [answer]
    split
    · exact rejectsCleanly_perform _ _ _
    all_goals exact rejectsCleanly_of_unchanged _
  · exact rejectsCleanly_of_unchanged _

/-! ## Sequences of requests -/

/-- The answers to requests that are handled one after another. -/
def answers (app : App) : List Request → List Answer
  | [] => []
  | request :: later => (app.handle request).2 :: (app.handle request).1.answers later

/-- The requests that are not rejected when all of them are handled one after another. -/
def accepted (app : App) : List Request → List Request
  | [] => []
  | request :: later =>
    let (next, answer) := app.handle request
    if answer.isRejection then next.accepted later else request :: next.accepted later

/-- Without the requests that are rejected, the others have the same answers. -/
theorem answers_accepted (app : App) (requests : List Request) :
    app.answers (app.accepted requests) =
      (app.answers requests).filter fun answer => !answer.isRejection := by
  induction requests generalizing app with
  | nil => rfl
  | cons request later ih =>
    rw [accepted, answers]
    cases rejected : (app.handle request).2.isRejection with
    | true =>
      have unchanged := rejectsCleanly_handle request rejected
      simp only [rejected, if_true, Bool.not_true, Bool.false_eq_true, not_false_eq_true,
        List.filter_cons_of_neg]
      rw [unchanged, ih]
    | false =>
      simp only [rejected, Bool.false_eq_true, if_false, Bool.not_false, List.filter_cons_of_pos]
      rw [answers, ih]

/-- A request that is rejected leaves the service as it was: the view that is asked for next, and the
answers to any later requests, are those that there would have been without it. -/
theorem rejected_leaves_no_trace {request : Request}
    (rejected : (app.handle request).2.isRejection = true) :
    (app.handle request).1 = app ∧
      ((app.handle request).1.handle viewRequest).2 = (app.handle viewRequest).2 ∧
      ∀ later, (app.handle request).1.answers later = app.answers later := by
  have unchanged := rejectsCleanly_handle request rejected
  rw [unchanged]
  exact ⟨rfl, rfl, fun _ => rfl⟩

/-- One suggestion is listed, and the sixth is asked for. -/
theorem rejected_leaves_no_trace_beyond_list :
    ∃ app : App, app.Reachable ∧ app.editor.session.suggestions = [⟨"v1", "Cena"⟩] ∧
      (app.handle ⟨"POST", "/formula/suggestions/5", none⟩).2.isRejection = true ∧
      ∀ later, (app.handle ⟨"POST", "/formula/suggestions/5", none⟩).1.answers later =
        app.answers later :=
  ⟨_, reachable_listing, rfl, rfl, (rejected_leaves_no_trace rfl).2.2⟩

end App

end FormulaEditor.Server
