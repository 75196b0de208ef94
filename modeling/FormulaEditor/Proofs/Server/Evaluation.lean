import FormulaEditor.Proofs.Evaluation.WellFormed
import FormulaEditor.Proofs.Json.Body
import FormulaEditor.Proofs.Server.Reachable

/-! # Evaluating what is shown

The service evaluates the formula of its session and tokens that are sent to it.  Tokens that it has
shown are accepted when they are sent back, and have the result that was shown with them.
-/

namespace FormulaEditor

/-! ## Tokens as texts -/

namespace Json

variable {room : Nat}

theorem readsBack_ofText? (s? : Option RawText) : ReadsBack room (ofText? s?) := by
  cases s? with
  | none => exact readsBack_null
  | some s => exact readsBack_str s

end Json

namespace Token

/-- The number that the token holds, if any, is read back from its text. -/
def NumberReadsBack (t : Token) : Prop :=
  ∀ n, t.fields.value = .number n → Json.NumberReadsBack n

theorem WellFormed.isFinite {t : Token} (wellFormed : t.WellFormed) {n : Number}
    (holds : t.fields.value = .number n) : n.isFinite = true := by
  cases t with
  | «variable» id name value =>
    obtain rfl : value = n := by simpa [fields] using holds
    exact wellFormed.2.2
  | number value =>
    obtain rfl : value = n := by simpa [fields] using holds
    exact wellFormed
  | operator op => cases holds
  | text s => cases holds

theorem readsBack_toJson {t : Token} (wellFormed : t.WellFormed) (numbers : t.NumberReadsBack)
    {room : Nat} : Json.ReadsBack (room + 1) t.toJson := by
  refine Json.readsBack_obj rfl ?_
  simp only [List.forall_mem_cons, List.not_mem_nil, false_implies, implies_true, and_true]
  refine ⟨Json.readsBack_str _, ?_, Json.readsBack_ofText? _, Json.readsBack_ofText? _⟩
  split
  · next n held => exact Json.readsBack_number (wellFormed.isFinite held) (numbers n held)
  · next s held => exact Json.readsBack_str s

end Token

namespace Server

/-! ## The two requests -/

def viewRequest : Request := ⟨"GET", "/formula", none⟩

def evaluateRequest (body : String) : Request := ⟨"POST", "/evaluate", some body⟩

theorem App.handle_view (app : App) : app.handle viewRequest = app.shown := by
  have target : Target.ofString "/formula" = .ok ⟨"/formula".toList, []⟩ := rfl
  have method : Text.upper "GET" = "GET" := by decide
  have route : resolve "GET" "/formula".toList = .endpoint .view := by decide
  rw [viewRequest, handle, target]
  simp only [answer, method, route]
  rfl

theorem App.handle_evaluate (app : App) (body : String) :
    app.handle (evaluateRequest body) = app.withBody (some body) fun v =>
      app.checked (checkBody checkEvaluation v) fun (formula, bindings) =>
        (app, .ofEvaluation (formula.evaluate bindings) Verdict.toJson) := by
  have target : Target.ofString "/evaluate" = .ok ⟨"/evaluate".toList, []⟩ := rfl
  have method : Text.upper "POST" = "POST" := by decide
  have route : resolve "POST" "/evaluate".toList = .endpoint .evaluate := by decide
  rw [evaluateRequest, handle, target]
  simp only [answer, method, route]
  rfl

theorem readBody_of_ok {body : String} {v : Json} (read : Json.readBody body = .ok v) :
    readBody (some body) = .ok (some v) := by
  have nonempty : body = "" → False := by
    rintro rfl
    cases read
  rw [readBody.eq_3 body nonempty, read]

/-- Well-formed tokens without bindings are accepted as themselves. -/
theorem checkEvaluation_eq_ok {formula : Formula} (wellFormed : ∀ t ∈ formula, t.WellFormed)
    {fields : List (RawText × Json)}
    (tokens : Json.member? fields "tokens" = some (.arr (formula.map Token.toJson)))
    (unbound : Json.member? fields "env" = none) :
    checkEvaluation fields = .ok (formula, []) := by
  have accepted := Checked.list_map fun t member =>
    Token.ofJson_toJson (wellFormed t member) .attributesType
  rw [checkEvaluation, Checked.required, tokens, Checked.optional, unbound]
  simp only [accepted]
  rfl

theorem App.handle_evaluate_eq (app : App) {formula : Formula}
    (wellFormed : ∀ t ∈ formula, t.WellFormed) {body : String} {fields : List (RawText × Json)}
    (read : Json.readBody body = .ok (.obj fields))
    (tokens : Json.member? fields "tokens" = some (.arr (formula.map Token.toJson)))
    (unbound : Json.member? fields "env" = none) :
    app.handle (evaluateRequest body) =
      (app, .ofEvaluation (formula.evaluate []) Verdict.toJson) := by
  rw [handle_evaluate, withBody, readBody_of_ok read]
  simp only [checkBody, checkEvaluation_eq_ok wellFormed tokens unbound]
  rfl

/-! ## What the view shows -/

namespace App

variable {app : App}

/-- If all tokens have labels, the view is shown with the tokens of the session and the verdict on
them, unless a text in it is torn. -/
theorem handle_view_cases (labels : ∀ t ∈ app.editor.session.formula, t.IsWritable) :
    ∃ view, app.editor.session.view = .ok view ∧
      ((∃ tear, view.toJson.tear? = some tear ∧
          app.handle viewRequest = (app, .failure (.tornAnswer tear))) ∨
        ∃ shown verdict, app.editor.session.verdict = .ok verdict ∧
          app.handle viewRequest = (app, .reply 200 (.obj shown)) ∧
          Json.member? shown "tokens" =
            some (.arr (app.editor.session.formula.map Token.toJson)) ∧
          Json.member? shown "result" = some verdict.toJson ∧
          (Json.arr (app.editor.session.formula.map Token.toJson)).tear? = none ∧
          verdict.toJson.tear? = none) := by
  have labelled := Grammar.not_unwritableBehind labels
  obtain ⟨verdict, evaluated, -⟩ : ∃ verdict, app.editor.session.verdict = .ok verdict ∧
      verdict.WellFormed :=
    Formula.exists_wellFormed_verdict labelled app.editor.session.bindings
  obtain ⟨view, viewed, tokens, result⟩ : ∃ view, app.editor.session.view = .ok view ∧
      view.formula = app.editor.session.formula ∧ view.verdict = verdict := by
    rw [Session.view, Formula.expression?_eq_some labels, evaluated]
    exact ⟨_, rfl, rfl, rfl⟩
  refine ⟨view, viewed, ?_⟩
  rw [handle_view, shown, viewed, Answer.ofEvaluation, Answer.success, View.toJson, tokens, result]
  split
  · next tear torn => exact .inl ⟨tear, torn, rfl⟩
  · next untorn =>
    refine .inr ⟨_, verdict, evaluated, rfl, rfl, rfl, ?_⟩
    simp only [Json.tear?, Json.tearOfMembers?, Option.orElse_eq_orElse, Option.orElse_eq_or,
      Option.or_eq_none_iff] at untorn
    exact ⟨untorn.2.1, untorn.2.2.2.2.2.1⟩

/-- Well-formed tokens that are not torn can be sent, and are read back when their numbers are. -/
theorem exists_body {formula : Formula} (wellFormed : ∀ t ∈ formula, t.WellFormed)
    (numbers : ∀ t ∈ formula, t.NumberReadsBack)
    (untorn : (Json.arr (formula.map Token.toJson)).tear? = none) :
    ∃ body, (Json.obj [("tokens", .arr (formula.map Token.toJson))]).compact = .whole body ∧
      Json.readBody body = .ok (.obj [("tokens", .arr (formula.map Token.toJson))]) := by
  refine Json.readBody_compact ?_ (Json.readsBack_obj rfl ?_)
  · simpa [Json.tear?, Json.tearOfMembers?, RawText.tear?] using untorn
  · rw [List.forall_mem_singleton]
    refine Json.readsBack_arr ?_
    simp only [List.forall_mem_map]
    exact fun t member => Token.readsBack_toJson (wellFormed t member) (numbers t member)

/-- Validating what a token is written as gives the token again.  In every state that the service
can come to, the tokens of the view are therefore accepted when they are sent back without bindings,
and their result is that of the view.  A view that holds a torn text cannot be shown. -/
theorem Reachable.evaluates_shown_tokens (reachable : app.Reachable) :
    (∀ noRecord v t, Token.ofJson noRecord v = .ok t →
        ∀ noRecord', Token.ofJson noRecord' t.toJson = .ok t) ∧
      (∀ f t, Token.ofFields f = .ok t →
        t.fields = f ∧ ∀ noRecord, Token.ofJson noRecord t.toJson = .ok t) ∧
      ((∃ view tear, app.editor.session.view = .ok view ∧ view.toJson.tear? = some tear ∧
          app.handle viewRequest = (app, .failure (.tornAnswer tear))) ∨
        ∃ shown tokens result, app.handle viewRequest = (app, .reply 200 (.obj shown)) ∧
          Json.member? shown "tokens" = some tokens ∧ Json.member? shown "result" = some result ∧
          (∀ body fields, Json.readBody body = .ok (.obj fields) →
            Json.member? fields "tokens" = some tokens → Json.member? fields "env" = none →
              app.handle (evaluateRequest body) = (app, .reply 200 result)) ∧
          ((∀ t ∈ app.editor.session.formula, t.NumberReadsBack) →
            ∃ body, (Json.obj [("tokens", tokens)]).compact = .whole body ∧
              app.handle (evaluateRequest body) = (app, .reply 200 result))) := by
  have sound := reachable.sound.session
  refine ⟨fun noRecord v t accepted noRecord' =>
    Token.ofJson_toJson (Token.wellFormed_of_ofJson accepted) noRecord', fun f t made => ?_, ?_⟩
  · obtain ⟨wellFormed, same⟩ := Token.ofFields_eq_ok_iff.mp made
    exact ⟨same, Token.ofJson_toJson wellFormed⟩
  obtain ⟨view, seen, ⟨tear, torn, failed⟩ |
    ⟨shown, verdict, evaluated, viewed, tokens, result, untorn, untornResult⟩⟩ :=
    handle_view_cases sound.labels.tokens
  · exact .inl ⟨view, tear, seen, torn, failed⟩
  have agrees : ∀ body fields, Json.readBody body = .ok (.obj fields) →
      Json.member? fields "tokens" = some (.arr (app.editor.session.formula.map Token.toJson)) →
        Json.member? fields "env" = none →
          app.handle (evaluateRequest body) = (app, .reply 200 verdict.toJson) := by
    intro body fields read sent unbound
    have alike : app.editor.session.formula.evaluate [] = .ok verdict := by
      rw [← sound.unbound]
      exact evaluated
    rw [app.handle_evaluate_eq sound.tokens.tokens read sent unbound, alike,
      Answer.ofEvaluation, Answer.success, untornResult]
  refine .inr ⟨shown, _, _, viewed, tokens, result, agrees, fun numbers => ?_⟩
  obtain ⟨body, compact, read⟩ := exists_body sound.tokens.tokens numbers untorn
  exact ⟨body, compact, agrees body _ read rfl rfl⟩

theorem Reachable.evaluates_shown_tokens_picked :
    ∃ app : App, app.Reachable ∧
      app.editor.session.formula = [.variable "v1" "Cena" (.int 0)] ∧
      ∃ shown result body, app.handle viewRequest = (app, .reply 200 (.obj shown)) ∧
        Json.member? shown "result" = some result ∧
        app.handle (evaluateRequest body) = (app, .reply 200 result) := by
  have nothing : (Provider.catalogue []).WellFormed := List.forall_mem_nil _
  have started : App.start {} (.catalogue []) = .ok ⟨⟨{}, .catalogue []⟩, "0.1.0"⟩ := rfl
  have offered : ∀ x ∈ [(⟨"v1", "Cena"⟩ : Suggestion)], x.WellFormed := by decide
  have offers := ((Reachable.start nothing started).wait "ce").goOn ⟨"ce", 1⟩ offered nothing
  have picks : Reachable
      ⟨⟨{ formula := [.variable "v1" "Cena" (.int 0)], number := 2 }, .catalogue []⟩, "0.1.0"⟩ :=
    offers.handle ⟨"POST", "/formula/suggestions/0", none⟩
  have numbers : ∀ t ∈ [(Token.variable "v1" "Cena" (.int 0))], t.NumberReadsBack := by
    rw [List.forall_mem_singleton]
    intro n held
    cases held
    rfl
  have read : Expr.ofTokens [.variable "v1" "Cena" (.int 0)] =
      .ok (.variable "v1" "Cena" (.int 0)) := by cbv
  have outcome : Formula.outcome [.variable "v1" "Cena" (.int 0)] [] =
      .ok ⟨.int 0, true, [.lookup "Cena" (.exact 0)]⟩ := by
    rw [Formula.outcome, read]
    change (Machine.evaluate [] (.variable "v1" "Cena" (.int 0))).bind _ = _
    rw [Machine.evaluate_eq_value]
    rfl
  refine ⟨_, picks, rfl, ?_⟩
  rcases (evaluates_shown_tokens picks).2.2 with ⟨view, tear, -, -, torn⟩ |
    ⟨shown, tokens, result, viewed, -, found, -, sent⟩
  · rw [handle_view, shown, Session.view, Session.verdict, Formula.evaluate, outcome] at torn
    cases torn
  · obtain ⟨body, -, evaluated⟩ := sent numbers
    exact ⟨shown, result, body, viewed, found, evaluated⟩

end App

end Server

end FormulaEditor
