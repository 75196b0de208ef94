import FormulaEditor.Json.Compact
import FormulaEditor.Remote.Lookup
import FormulaEditor.Server.Route
import FormulaEditor.Session.Typing
import FormulaEditor.Settings
import FormulaEditor.Validation.Session

/-! # The editor as a service

One editor is kept, and requests act on it one after another. A request that cannot be carried out
is answered with a reason and leaves the editor as it is.
-/

namespace FormulaEditor.Server

/-! ## Requests and answers -/

/-- A request as it comes in; a body is a text or absent. -/
structure Request where
  method : String
  target : String
  body : Option String

/-- Why a request gets no answer. -/
inductive Failure where
  /-- it cannot be sent to its target -/
  | target (f : TargetFault)
  /-- a lookup failed in a way that nothing deals with -/
  | lookup (b : Remote.Breakdown)
  /-- the evaluation of a formula failed in a way that is not reported -/
  | evaluation (e : EvalError)
  /-- the answer would repeat a number that cannot be written -/
  | unwritableNumber
  /-- the answer would repeat a torn text -/
  | tornInput (tear : RawText.Tear)
  /-- the answer would show a torn text -/
  | tornAnswer (tear : RawText.Tear)
  deriving DecidableEq, Repr

def Failure.message : Failure → String
  | .target f => f.message
  | .lookup b => b.message
  | .evaluation e => e.message
  | .unwritableNumber => "Out of range float values are not JSON compliant"
  | .tornInput tear => tear.message
  | .tornAnswer tear => "Error serializing to JSON: UnicodeEncodeError: " ++ tear.message

/-- What a request gets. -/
inductive Answer where
  | reply (status : Nat) (body : Json)
  | failure (f : Failure)

def pathRecord (path : List Segment) : Json :=
  .arr (path.map fun
    | .name s => .str s
    | .index i => .int i)

def issueMembers (issue : Issue) : List (RawText × Json) :=
  [("type", .str (.whole issue.kind.code)), ("loc", pathRecord issue.path),
    ("msg", .str (.whole issue.kind.message))]

def issueRecord (issue : Issue) : Json := .obj (issueMembers issue)

/-- The record for an issue that repeats the data at fault. -/
def fullIssueRecord (issue : Issue) : Json :=
  let context : List (RawText × Json) :=
    match issue.kind.context? with
    | some context => [("ctx", context)]
    | none => []
  .obj (issueMembers issue ++ (.whole "input", issue.input) :: context)

def detailRecord (detail : Json) : Json := .obj [("detail", detail)]

namespace Answer

def detailed (status : Nat) (detail : Json) : Answer := .reply status (detailRecord detail)

/-- The answer to a request that was carried out; torn texts cannot be shown. -/
def success (body : Json) : Answer :=
  match body.tear? with
  | some tear => .failure (.tornAnswer tear)
  | none => .reply 200 body

def ofEvaluation {α : Type} (result : Except EvalError α) (toJson : α → Json) : Answer :=
  match result with
  | .ok a => success (toJson a)
  | .error e => .failure (.evaluation e)

/-- The answer to a request with issues. The data at fault are repeated in it, so it fails when
those cannot be written; the place of a torn text is that in the compact form of the answer. -/
def invalid (issues : List Issue) : Answer :=
  if issues.any fun issue => issue.input.hasNonFinite then .failure .unwritableNumber
  else
    match (detailRecord (.arr (issues.map fullIssueRecord))).compact.tear? with
    | some tear => .failure (.tornInput tear)
    | none => .detailed 422 (.arr (issues.map issueRecord))

/-- The answer when there is no suggestion at a position. -/
def noSuggestion (index : Int) : Answer :=
  .detailed 404 (.str (.whole ("Brak podpowiedzi o indeksie " ++ toString index)))

/-- The answer when there is no token at a position. -/
def noToken (index : Int) : Answer :=
  .detailed 404 (.str (.whole ("Brak tokenu o indeksie " ++ toString index)))

end Answer

/-! ## Reading requests -/

/-- The value of a body. A body that cannot be read is the only issue of its request. -/
def readBody (body : Option String) : Except Answer (Option Json) :=
  match body with
  | none | some "" => .ok none
  | some text =>
    match Json.readBody text with
    | .ok v => .ok (some v)
    | .error (.malformed position) =>
      .error (.invalid [⟨.jsonInvalid, [.name "body", .index position], .obj []⟩])
    | .error _ =>
      .error (.detailed 400 (.str "There was an error parsing the body"))

def checkBody {α : Type} (check : List (RawText × Json) → Checked α) (body : Option Json) :
    Checked α :=
  Checked.within (.name "body") (match body with
    | none => Checked.refuse .missing .null
    | some (.obj members) => check members
    | some v => Checked.refuse .attributesType v)

/-- Checks a position in a path. -/
def checkIndex (index : String) : Checked Int :=
  Checked.within (.name "path") (Checked.within (.name "index") (Coercion.int (.str index)))

def checkBindings (v : Json) : Checked Bindings :=
  match v with
  | .obj members =>
    members.foldr (fun (id, value) rest =>
      (Checked.both (Checked.within (.name id) (Coercion.number value)) rest).map
        fun (n, more) => (id, n) :: more) (.ok [])
  | v => Checked.refuse .dictType v

def checkEvaluation (members : List (RawText × Json)) : Checked (Formula × Bindings) :=
  Checked.both
    (Checked.required members "tokens" (Checked.list (Token.ofJson .attributesType)))
    (Checked.optional members "env" [] checkBindings)

/-! ## Carrying out requests -/

/-- The service: an editor and the version it tells. -/
structure App where
  editor : Editor
  version : String

/-- Why there is no service. -/
inductive StartFault where
  | noTitle
  | noVersion
  /-- the time to wait for suggestions is beyond the greatest binary number -/
  | longTimeout
  deriving DecidableEq, Repr

def StartFault.message : StartFault → String
  | .noTitle => "A title must be provided for OpenAPI, e.g.: 'My API'"
  | .noVersion => "A version must be provided for OpenAPI, e.g.: '2.1.0'"
  | .longTimeout => "int too large to convert to float"

namespace App

/-- The service with an empty session. A remote provider is asked at the address of the settings. -/
def start (s : Settings) (provider : Provider) : Except StartFault App := do
  if s.appTitle = "" then throw .noTitle
  if s.appVersion = "" then throw .noVersion
  match provider with
  | .catalogue suggestions => return ⟨⟨{}, .catalogue suggestions⟩, s.appVersion⟩
  | .service service =>
    if !s.timeoutFits then throw .longTimeout
    return ⟨⟨{}, .service { service with address := s.backendUrl }⟩, s.appVersion⟩

/-- The service with another session. -/
def withSession (app : App) (s : Session) : App :=
  { app with editor := { app.editor with session := s } }

def shown (app : App) : App × Answer := (app, .ofEvaluation app.editor.session.view View.toJson)

/-- Goes on with a checked part of the request, or answers with its issues. -/
def checked {α : Type} (app : App) (part : Checked α) (act : α → App × Answer) : App × Answer :=
  match part with
  | .ok a => act a
  | .error issues => (app, .invalid issues)

/-- Goes on with the body of the request, or answers with what is wrong with it. -/
def withBody (app : App) (body : Option String) (act : Option Json → App × Answer) :
    App × Answer :=
  match readBody body with
  | .ok v => act v
  | .error answer => (app, answer)

def setInput (app : App) (text : RawText) : App × Answer :=
  match app.editor.setInput text with
  | (editor, .ok _) => { app with editor }.shown
  | (editor, .error b) => ({ app with editor }, .failure (.lookup b))

/-- Looks up a query. -/
def suggestions (app : App) (query : String) : App × Answer :=
  match app.editor.provider.lookup query with
  | (.ok found, provider) =>
    ({ app with editor := { app.editor with provider } },
      .success (.arr (found.map Suggestion.toJson)))
  | (.error b, provider) =>
    ({ app with editor := { app.editor with provider } }, .failure (.lookup b))

/-- Shows the session that an operation gives, or answers that there is nothing to operate on. -/
def shownOr (app : App) (absent : Answer) : Option Session → App × Answer
  | some s => (app.withSession s).shown
  | none => (app, absent)

/-- Carries out what a request asks for. -/
def perform (app : App) (endpoint : Endpoint) (target : Target) (body : Option String) :
    App × Answer :=
  let session := app.editor.session
  match endpoint with
  | .view => app.shown
  | .clear => (app.withSession session.clear).shown
  | .setInput => app.withBody body fun v =>
    app.checked (checkBody (Checked.required · "text" Coercion.rawText) v) app.setInput
  | .pressKey => app.withBody body fun v =>
    app.checked (checkBody (Checked.required · "key" Coercion.rawText) v) fun key =>
      (app.withSession (session.press (Key.ofName key)).1).shown
  | .blur => (app.withSession session.blur).shown
  | .pick index => app.checked (checkIndex index) fun i =>
    app.shownOr (.noSuggestion i) (session.pick? i)
  | .token index => app.checked (checkIndex index) fun i =>
    match session.tokenAt? i with
    | some t => (app, .success t.toJson)
    | none => (app, .noToken i)
  | .editToken index => app.withBody body fun v =>
    app.checked
      (Checked.both (checkIndex index)
        (checkBody (Checked.required · "text" Coercion.nonemptyString) v))
      fun (i, text) => app.shownOr (.noToken i) (session.editToken? i text)
  | .deleteToken index => app.checked (checkIndex index) fun i =>
    app.shownOr (.noToken i) (session.deleteToken? i)
  | .evaluate => app.withBody body fun v =>
    app.checked (checkBody checkEvaluation v) fun (formula, bindings) =>
      (app, .ofEvaluation (formula.evaluate bindings) Verdict.toJson)
  | .suggestions => app.suggestions ((target.last? "query").getD "")
  | .health =>
    (app, .success (.obj [("status", .str "ok"), ("version", .str (.whole app.version))]))
  | .documentation => (app, .reply 200 .null)

def answer (app : App) (method : String) (target : Target) (body : Option String) :
    App × Answer :=
  match resolve method target.path with
  | .endpoint e => app.perform e target body
  | .wrongMethod =>
    (app, if method = "HEAD" then .reply 405 .null
      else .detailed 405 (.str "Method Not Allowed"))
  | .redirect => (app, .reply 307 .null)
  | .unknown =>
    (app, if method = "HEAD" then .reply 404 .null else .detailed 404 (.str "Not Found"))

def handle (app : App) (request : Request) : App × Answer :=
  match Target.ofString request.target with
  | .ok target => app.answer (Text.upper request.method) target request.body
  | .error f => (app, .failure (.target f))

end App

end FormulaEditor.Server
