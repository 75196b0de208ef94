import FormulaEditor.Proofs.Session.Tokens
import FormulaEditor.Proofs.Suggestion.Search
import FormulaEditor.Server.App

/-! # States of the service

Requests are handled one after another, except that others are handled while one waits for
suggestions.  Whatever has been asked so far, tokens and suggestions are well formed, and variables
have no bindings.
-/

namespace FormulaEditor

/-! ## What lookups find -/

/-- All that the provider has of its own is well formed. -/
def Provider.WellFormed : Provider → Prop
  | .catalogue entries => ∀ x ∈ entries, x.WellFormed
  | .service _ => True

namespace Remote

theorem wellFormed_of_validEntries {items : List Json} {x : Suggestion}
    (valid : x ∈ validEntries items) : x.WellFormed := by
  obtain ⟨item, -, accepted⟩ := List.mem_filterMap.mp valid
  cases checked : Suggestion.ofJson item with
  | error issues => simp [checked, Except.toOption] at accepted
  | ok y =>
    obtain rfl : y = x := by simpa [checked, Except.toOption] using accepted
    exact Suggestion.wellFormed_of_ofJson checked

/-- What was found has only well-formed suggestions. -/
def Report.IsWellFormed (report : Report) : Prop :=
  ∀ found, report.result = .ok found → ∀ x ∈ found, x.WellFormed

theorem Report.isWellFormed_nil {report : Report} (nothing : report.result = .ok []) :
    report.IsWellFormed := by
  intro found taken
  rw [nothing] at taken
  obtain rfl : [] = found := Except.ok.inj taken
  exact nofun

theorem Report.isWellFormed_error {report : Report} {b : Breakdown}
    (ended : report.result = .error b) : report.IsWellFormed := by
  intro found taken
  rw [ended] at taken
  cases taken

theorem isWellFormed_receive (a : Address) (query : String) (reply : Reply) :
    (receive a query reply).IsWellFormed := by
  cases reply with
  | failure f =>
    cases f with
    | other message => exact Report.isWellFormed_error rfl
    | _ => exact Report.isWellFormed_nil rfl
  | response status body =>
    simp only [receive]
    split
    · exact Report.isWellFormed_nil rfl
    · split
      · exact Report.isWellFormed_nil rfl
      · exact Report.isWellFormed_error rfl
      · next items listed =>
        intro found taken x member
        rw [← Except.ok.inj taken] at member
        exact wellFormed_of_validEntries (Suggestion.search_subset _ query member)

theorem isWellFormed_lookup (address query : String) (reply : Reply) :
    (lookup address query reply).IsWellFormed := by
  simp only [lookup]
  split
  · exact Report.isWellFormed_nil rfl
  · split
    · exact Report.isWellFormed_nil rfl
    · split
      · exact isWellFormed_receive _ query reply
      · exact Report.isWellFormed_nil rfl

end Remote

theorem Provider.WellFormed.lookup {provider : Provider} (wellFormed : provider.WellFormed)
    (text : RawText) :
    (provider.lookup text).2.WellFormed ∧
      ∀ found, (provider.lookup text).1 = .ok found → ∀ x ∈ found, x.WellFormed := by
  cases text with
  | torn =>
    refine ⟨wellFormed, fun found taken x member => ?_⟩
    rw [← Except.ok.inj taken] at member
    cases member
  | whole query =>
    cases provider with
    | catalogue entries =>
      refine ⟨wellFormed, fun found taken x member => ?_⟩
      rw [← Except.ok.inj taken] at member
      exact wellFormed x (Suggestion.search_subset entries query member)
    | service s => exact ⟨trivial, Remote.isWellFormed_lookup s.address query s.nextReply⟩

namespace Server.App

/-! ## What a request does -/

/-- What a request can do to the service: it does nothing, operates on the session, sets the
fragment, or looks up a query. -/
inductive Moves (app : App) : App → Prop
  | stay : Moves app app
  | operate (op : Operation) : Moves app (app.withSession (op.perform app.editor.session))
  | setInput (text : RawText) : Moves app { app with editor := (app.editor.setInput text).1 }
  | ask (query : String) :
    Moves app
      { app with editor := { app.editor with provider := (app.editor.provider.lookup query).2 } }

variable {app : App}

theorem moves_checked {α : Type} {part : Checked α} {act : α → App × Answer}
    (acts : ∀ a, app.Moves (act a).1) : app.Moves (app.checked part act).1 := by
  cases part with
  | ok a => exact acts a
  | error issues => exact .stay

theorem moves_withBody {body : Option String} {act : Option Json → App × Answer}
    (acts : ∀ v, app.Moves (act v).1) : app.Moves (app.withBody body act).1 := by
  rw [withBody]
  cases readBody body with
  | ok v => exact acts v
  | error answer => exact .stay

/-- An operation that is refused leaves the service as it is. -/
theorem moves_shownOr (op : Operation) {absent : Answer} {next? : Option Session}
    (performed : op.perform app.editor.session = next?.getD app.editor.session) :
    app.Moves (app.shownOr absent next?).1 := by
  cases next? with
  | none => exact .stay
  | some next =>
    have moved : app.Moves (app.withSession (op.perform app.editor.session)) := .operate op
    rwa [performed] at moved

theorem setInput_fst (text : RawText) :
    (app.setInput text).1 = { app with editor := (app.editor.setInput text).1 } := by
  rw [App.setInput]
  split
  · next editor taken set => rw [set]; rfl
  · next editor b set => rw [set]

theorem suggestions_fst (query : String) :
    (app.suggestions query).1 =
      { app with
        editor := { app.editor with provider := (app.editor.provider.lookup query).2 } } := by
  rw [App.suggestions]
  split
  · next found provider looked => rw [looked]
  · next b provider looked => rw [looked]

theorem moves_perform (endpoint : Endpoint) (target : Target) (body : Option String) :
    app.Moves (app.perform endpoint target body).1 := by
  cases endpoint with
  | view => exact .stay
  | clear => exact .operate .clear
  | setInput =>
    refine moves_withBody fun v => moves_checked fun text => ?_
    rw [setInput_fst]
    exact .setInput text
  | pressKey =>
    exact moves_withBody fun v => moves_checked fun key => .operate (.press (Key.ofName key))
  | blur => exact .operate .blur
  | pick index => exact moves_checked fun i => moves_shownOr (.pick i) rfl
  | token index =>
    refine moves_checked fun i => ?_
    split <;> exact .stay
  | editToken index =>
    exact moves_withBody fun v => moves_checked fun (i, text) => moves_shownOr (.edit i text) rfl
  | deleteToken index => exact moves_checked fun i => moves_shownOr (.delete i) rfl
  | evaluate => exact moves_withBody fun v => moves_checked fun _ => .stay
  | suggestions =>
    rw [perform, suggestions_fst]
    exact .ask _
  | health => exact .stay
  | documentation => exact .stay

theorem moves_handle (request : Request) : app.Moves (app.handle request).1 := by
  rw [handle]
  split
  · rw [answer]
    split
    · exact moves_perform _ _ _
    all_goals exact .stay
  · exact .stay

/-! ## Reachable states -/

/-- The states that the service can come to.  While a request waits for suggestions, others are
handled; what has become of the provider when the lookup returns is left open. -/
inductive Reachable : App → Prop
  | start {settings : Settings} {provider : Provider} {app : App} (offers : provider.WellFormed)
      (started : App.start settings provider = .ok app) : Reachable app
  | handle {app : App} (before : Reachable app) (request : Request) :
    Reachable (app.handle request).1
  | wait {app : App} (before : Reachable app) (text : RawText) :
    Reachable (app.withSession (app.editor.session.begin text).1)
  | goOn {app : App} (before : Reachable app) (request : FormulaEditor.Request)
      {found : List Suggestion} (offered : ∀ x ∈ found, x.WellFormed) {provider : Provider}
      (offers : provider.WellFormed) :
    Reachable { app with editor := ⟨(app.editor.session.arrive request found).1, provider⟩ }

/-- A state in which one suggestion is listed. -/
theorem reachable_listing :
    Reachable
      ⟨⟨{ pending := "ce", suggestions := [⟨"v1", "Cena"⟩], suggestionsOpen := true, number := 1 },
        .catalogue []⟩, "0.1.0"⟩ := by
  have nothing : (Provider.catalogue []).WellFormed := List.forall_mem_nil _
  have started : App.start {} (.catalogue []) = .ok ⟨⟨{}, .catalogue []⟩, "0.1.0"⟩ := rfl
  have offered : ∀ x ∈ [(⟨"v1", "Cena"⟩ : Suggestion)], x.WellFormed := by decide
  exact ((Reachable.start nothing started).wait "ce").goOn ⟨"ce", 1⟩ offered nothing

end Server.App

/-! ## What holds in all of them -/

/-- The tokens of the session and its suggestions are well formed and have labels to show, and no
variable is bound. -/
structure Session.Sound (s : Session) : Prop where
  tokens : s.All Token.WellFormed
  labels : s.All Token.IsWritable
  unbound : s.bindings = []

namespace Session.Sound

variable {s : Session}

theorem begin (sound : s.Sound) (text : RawText) : (s.begin text).1.Sound where
  tokens := sound.tokens.begin text
  labels := sound.labels.begin text
  unbound := by rw [begin_session, sound.unbound]

theorem arrive (sound : s.Sound) (request : Request) {found : List Suggestion}
    (offered : ∀ x ∈ found, x.WellFormed) : (s.arrive request found).1.Sound where
  tokens := sound.tokens.arrive request fun x member =>
    Suggestion.wellFormed_toToken.mpr (offered x member)
  labels := sound.labels.arrive request fun x _ => x.isWritable_toToken
  unbound := by rw [arrive_session, sound.unbound]

theorem perform (sound : s.Sound) (op : Operation) : (op.perform s).Sound where
  tokens := sound.tokens.perform (fun _ typed => typed.wellFormed) op
  labels := sound.labels.perform (fun _ typed => typed.isWritable) op
  unbound := by
    rcases op.perform_cases s with ⟨-, added, -, -, performed⟩ | ⟨-, keeps⟩
    · rw [performed]
      exact sound.unbound
    · rw [keeps.rest]
      exact sound.unbound

end Session.Sound

/-- The session is sound, and so is what the provider offers. -/
structure Editor.Sound (e : Editor) : Prop where
  session : e.session.Sound
  provider : e.provider.WellFormed

theorem Editor.Sound.setInput {e : Editor} (sound : e.Sound) (text : RawText) :
    (e.setInput text).1.Sound := by
  obtain ⟨offers, offered⟩ := sound.provider.lookup text
  have begun := sound.session.begin text
  rw [Editor.setInput]
  split
  · next session start =>
    rw [start] at begun
    exact ⟨begun, sound.provider⟩
  · next session request start =>
    rw [start] at begun
    split
    · next b provider looked =>
      rw [looked] at offers
      exact ⟨begun, offers⟩
    · next found provider looked =>
      rw [looked] at offers offered
      exact ⟨begun.arrive request (offered found rfl), offers⟩

namespace Server.App

variable {app : App}

theorem sound_of_moves (sound : app.editor.Sound) {next : App} (moves : app.Moves next) :
    next.editor.Sound := by
  cases moves with
  | stay => exact sound
  | operate op => exact ⟨sound.session.perform op, sound.provider⟩
  | setInput text => exact sound.setInput text
  | ask query => exact ⟨sound.session, (sound.provider.lookup query).1⟩

theorem sound_of_start {settings : Settings} {provider : Provider} (offers : provider.WellFormed)
    (started : start settings provider = .ok app) : app.editor.Sound := by
  have new : ({} : Session).Sound := ⟨⟨nofun, nofun⟩, ⟨nofun, nofun⟩, rfl⟩
  unfold start at started
  by_cases title : settings.appTitle = ""
  · rw [if_pos title] at started
    cases started
  by_cases version : settings.appVersion = ""
  · rw [if_neg title, if_pos version] at started
    cases started
  rw [if_neg title, if_neg version] at started
  cases provider with
  | catalogue entries =>
    cases started
    exact ⟨new, offers⟩
  | service service =>
    by_cases fits : settings.timeoutFits = true
    · rw [fits] at started
      cases started
      exact ⟨new, trivial⟩
    · rw [Bool.eq_false_iff.mpr fits] at started
      cases started

theorem Reachable.sound (reachable : app.Reachable) : app.editor.Sound := by
  induction reachable with
  | start offers started => exact sound_of_start offers started
  | handle before request ih => exact sound_of_moves ih (moves_handle request)
  | wait before text ih => exact ⟨ih.session.begin text, ih.provider⟩
  | goOn before request offered offers ih => exact ⟨ih.session.arrive request offered, offers⟩

end Server.App

end FormulaEditor
