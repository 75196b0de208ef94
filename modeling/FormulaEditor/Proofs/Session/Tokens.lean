import FormulaEditor.Proofs.Session.Run
import FormulaEditor.Proofs.Typing.Recognition

/-! # The tokens of a session

Tokens come into a session in two ways: they are typed, or they are the variables of suggestions.
What all typed tokens have, and the variables of all suggestions that are found, all tokens of the
session have therefore, whatever happens.  In particular they are well formed, and every record that
an operation builds is accepted.
-/

namespace FormulaEditor

/-! ## Where tokens come from -/

/-- The token can be typed: it is no variable, and if it is a number it is a finite one that can be
written. -/
def Token.IsTyped : Token → Prop
  | .variable .. => False
  | .number value => value.isFinite = true ∧ value.isWritable = true
  | _ => True

theorem Token.IsTyped.wellFormed {t : Token} (typed : t.IsTyped) : t.WellFormed := by
  cases t with
  | «variable» id name value => exact typed.elim
  | number value => exact typed.1
  | _ => trivial

theorem Token.IsTyped.isWritable {t : Token} (typed : t.IsTyped) : t.IsWritable := by
  cases t with
  | number value => exact Token.isWritable_number_iff.mpr typed.2
  | _ => rfl

/-- The variable of a suggestion is shown by its name. -/
theorem Suggestion.isWritable_toToken (s : Suggestion) : s.toToken.IsWritable := rfl

theorem Suggestion.wellFormed_toToken {s : Suggestion} : s.toToken.WellFormed ↔ s.WellFormed := by
  simp [toToken, Token.WellFormed, Suggestion.WellFormed, Number.isFinite]

namespace Fragment

theorem isFinite_of_numberOf? {n : Numeral} {x : Number} (typed : numberOf? n = some x) :
    x.isFinite = true := by
  rw [numberOf?] at typed
  split at typed
  · cases typed
    rfl
  · split at typed
    · next finite =>
      cases typed
      exact finite
    · cases typed

theorem isTyped_of_typed {fragment : RawText} {x : Number}
    (typed : typedNumber? fragment = some x) : (Token.number x).IsTyped := by
  obtain ⟨s, -, read⟩ := Option.bind_eq_some_iff.mp typed
  rw [number?, Option.bind_eq_some_iff] at read
  obtain ⟨n, -, denoted⟩ := read
  refine ⟨isFinite_of_numberOf? denoted, ?_⟩
  cases x with
  | int n =>
    have limit : 10 ^ wholeDigits ≤ 10 ^ integerDigitLimit :=
      Nat.pow_le_pow_right (by decide) (by decide)
    exact Number.isWritable_int_iff.mpr (Nat.lt_of_lt_of_le (natAbs_lt_of_typed typed) limit)
  | float x => rfl

theorem isTyped_classify (fragment : RawText) : (classify fragment).IsTyped := by
  rw [classify]
  split
  · next x typed => exact isTyped_of_typed typed
  · split <;> trivial

theorem isTyped_of_flush {fragment : RawText} {t : Token} (flushed : flush fragment = some t) :
    t.IsTyped := by
  rw [flush] at flushed
  split at flushed
  · cases flushed
  · split at flushed
    · next x typed =>
      cases flushed
      exact isTyped_of_typed typed
    · cases flushed
      trivial

end Fragment

namespace InputState

variable {state : InputState} {t : Token}

theorem moveHighlight_tokens (state : InputState) (step : Int) :
    (state.moveHighlight step).tokens = [] := by
  rw [moveHighlight]
  split <;> rfl

/-- A key commits typed tokens and variables of the suggestions. -/
theorem isTyped_or_of_decide {key : Key} (added : t ∈ (state.decide key).tokens) :
    t.IsTyped ∨ ∃ s ∈ state.suggestions, t = s.toToken := by
  cases key with
  | enter =>
    rw [decide, enter] at added
    split at added
    · next s chosen => exact .inr ⟨s, chosen?_mem chosen, List.mem_singleton.mp added⟩
    · split at added
      · cases added
      · rw [List.mem_singleton.mp added]
        exact .inl (Fragment.isTyped_classify state.pending)
  | operator op =>
    rcases List.mem_append.mp added with flushed | operator
    · exact .inl (Fragment.isTyped_of_flush (Option.mem_toList.mp flushed))
    · rw [List.mem_singleton.mp operator]
      exact .inl trivial
  | backspace =>
    rw [decide, backspace] at added
    split at added
    · split at added <;> cases added
    · cases added
  | arrowUp => simp [decide, moveHighlight_tokens] at added
  | arrowDown => simp [decide, moveHighlight_tokens] at added
  | escape => cases added
  | other => cases added

end InputState

/-! ## Tokens with a property -/

theorem Formula.mem_of_mem_removeAt? {f : Formula} {index : Int} {t : Token}
    (kept : t ∈ (f.removeAt? index).getD f) : t ∈ f := by
  rw [removeAt?] at kept
  cases place : f.place? index with
  | none => simpa [place] using kept
  | some i => exact List.mem_of_mem_eraseIdx (by simpa [place] using kept)

namespace Session

/-- All tokens of the session have a property, and so would the variables of its suggestions. -/
structure All (P : Token → Prop) (s : Session) : Prop where
  tokens : ∀ t ∈ s.formula, P t
  suggestions : ∀ x ∈ s.suggestions, P x.toToken

variable {P : Token → Prop} {s : Session}

theorem All.begin (all : s.All P) (text : RawText) : (s.begin text).1.All P := by
  rw [begin_session]
  exact ⟨all.tokens, List.forall_mem_nil _⟩

theorem All.arrive (all : s.All P) (request : Request) {found : List Suggestion}
    (fit : ∀ x ∈ found, P x.toToken) : (s.arrive request found).1.All P := by
  rw [Session.arrive]
  split
  · exact ⟨all.tokens, fit⟩
  · exact all

theorem All.decided (all : s.All P) (typed : ∀ t : Token, t.IsTyped → P t) (key : Key) :
    ∀ t ∈ (s.inputState.decide key).tokens, P t := by
  intro t added
  rcases InputState.isTyped_or_of_decide added with isTyped | ⟨x, member, rfl⟩
  · exact typed t isTyped
  · exact all.suggestions x member

theorem All.act (all : s.All P) {action : InputAction} (added : ∀ t ∈ action.tokens, P t) :
    (s.act action).All P := by
  have grown : ∀ t ∈ s.formula ++ action.tokens, P t :=
    List.forall_mem_append.mpr ⟨all.tokens, added⟩
  rw [Session.act]
  split
  · exact ⟨grown, all.suggestions⟩
  · exact ⟨grown, all.suggestions⟩
  · exact ⟨fun t kept => all.tokens t (Formula.mem_of_mem_removeAt? kept), all.suggestions⟩
  · exact ⟨all.tokens, all.suggestions⟩
  · exact all

theorem All.apply (all : s.All P) {action : InputAction} (added : ∀ t ∈ action.tokens, P t) :
    (s.apply action).All P := by
  have acted := all.act added
  rw [Session.apply]
  split
  · exact ⟨acted.tokens, List.forall_mem_nil _⟩
  · exact ⟨acted.tokens, acted.suggestions⟩
  · exact ⟨acted.tokens, acted.suggestions⟩
  · exact acted

theorem All.perform (all : s.All P) (typed : ∀ t : Token, t.IsTyped → P t) (op : Operation) :
    (op.perform s).All P := by
  cases op with
  | press key => exact all.apply (all.decided typed key)
  | pick index =>
    by_cases place : 0 ≤ index ∧ index < s.suggestions.length
    · have inside : index.toNat < s.suggestions.length := by omega
      have picked := List.getElem?_eq_getElem inside
      have added : ∀ t ∈ [s.suggestions[index.toNat].toToken], P t :=
        List.forall_mem_singleton.mpr (all.suggestions _ (List.getElem_mem inside))
      rw [Operation.perform, pick?_eq_some place.1 picked]
      exact ⟨List.forall_mem_append.mpr ⟨all.tokens, added⟩, List.forall_mem_nil _⟩
    · rw [Operation.perform, pick?_eq_none place]
      exact all
  | blur => exact ⟨all.tokens, all.suggestions⟩
  | clear => exact ⟨List.forall_mem_nil _, all.suggestions⟩
  | edit index text =>
    by_cases refused : text.isBlank = true ∨ ¬ (0 ≤ index ∧ index < s.formula.length)
    · rw [Operation.perform, editToken?_eq_none refused]
      exact all
    · obtain ⟨kept, place⟩ := not_or.mp refused
      rw [Operation.perform, editToken?_eq_some kept (Decidable.not_not.mp place)]
      refine ⟨fun t member => ?_, all.suggestions⟩
      rcases List.mem_or_eq_of_mem_set member with old | rfl
      · exact all.tokens t old
      · exact typed _ (Fragment.isTyped_classify text)
  | delete index =>
    by_cases place : 0 ≤ index ∧ index < s.formula.length
    · rw [Operation.perform, deleteToken?_eq_some place]
      exact ⟨fun t kept => all.tokens t (List.mem_of_mem_eraseIdx kept), all.suggestions⟩
    · rw [Operation.perform, deleteToken?_eq_none place]
      exact all

end Session

namespace World

variable {P : Token → Prop}

/-- What lookups find has a property. -/
def Event.Finds (P : Token → Prop) : Event → Prop
  | .arrive _ found => ∀ x ∈ found, P x.toToken
  | _ => True

theorem all_of_step {w next : World} {event : Event} (all : w.session.All P)
    (typed : ∀ t : Token, t.IsTyped → P t) (finds : Event.Finds P event)
    (stepped : w.step event = some next) : next.session.All P := by
  cases event with
  | start text =>
    cases stepped
    exact all.begin text
  | arrive i found =>
    obtain ⟨call, request, -, rfl⟩ := step_arrive_eq_some stepped
    exact all.arrive request finds
  | fail i =>
    obtain ⟨call, request, -, rfl⟩ := step_fail_eq_some stepped
    exact all
  | operate op =>
    cases stepped
    exact all.perform typed op

/-- What typed tokens have, and all that is there or is found, every token has after every run. -/
theorem all_of_run {w final : World} {events : List Event} (all : w.session.All P)
    (typed : ∀ t : Token, t.IsTyped → P t) (finds : ∀ event ∈ events, Event.Finds P event)
    (ran : w.run events = some final) : final.session.All P :=
  run_preserves_on (P := fun w => w.session.All P)
    (fun event member _ _ all stepped => all_of_step all typed (finds event member) stepped) all ran

end World

/-! ## Operations that check what they build -/

/-- What a key does when the input state, and the action with its tokens, are checked as records
before they are used. -/
def Session.checkedPress (s : Session) (key : Key) : Checked (Session × InputAction) := do
  let state ← InputState.ofJson s.inputState.toJson
  let action ← InputAction.ofJson (state.decide key).toJson
  return (s.apply action, action)

/-- What a click does when the token of the suggestion is checked as a record. -/
def Session.checkedPick? (s : Session) (index : Int) : Checked (Option Session) :=
  if 0 ≤ index then
    match s.suggestions[index.toNat]? with
    | some suggestion => do
      let token ← Token.ofJson Token.notAToken suggestion.toToken.toJson
      return some (s.commit [token])
    | none => .ok none
  else .ok none

/-- What editing a token does when the new token is checked as a record. -/
def Session.checkedEdit? (s : Session) (index : Int) (text : RawText) : Checked (Option Session) :=
  if text.isBlank then .ok none
  else do
    let token ← Token.ofJson Token.notAToken (Fragment.classify text).toJson
    return (s.formula.replaceAt? index token).map fun formula => { s with formula }

/-- The operation with all records checked that are built for it. -/
def Operation.checked (s : Session) : Operation → Checked Session
  | .press key => return (← s.checkedPress key).1
  | .pick index => return (← s.checkedPick? index).getD s
  | .edit index text => return (← s.checkedEdit? index text).getD s
  | op => return op.perform s

namespace Session

variable {s : Session}

theorem All.checkedPress (all : s.All Token.WellFormed) (key : Key) :
    s.checkedPress key = .ok (s.press key) := by
  have suggestions : ∀ x ∈ s.inputState.suggestions, x.WellFormed := fun x member =>
    Suggestion.wellFormed_toToken.mp (all.suggestions x member)
  have tokens := all.decided (fun _ typed => typed.wellFormed) key
  simp only [Session.checkedPress, InputState.ofJson_toJson suggestions,
    InputAction.ofJson_toJson tokens, bind, Except.bind]
  rfl

theorem All.checkedPick? (all : s.All Token.WellFormed) (index : Int) :
    s.checkedPick? index = .ok (s.pick? index) := by
  rw [Session.checkedPick?]
  split
  · next place =>
    cases picked : s.suggestions[index.toNat]? with
    | none => simp [pick?, picked]
    | some suggestion =>
      have wellFormed := all.suggestions suggestion (List.mem_of_getElem? picked)
      simp only [pick?_eq_some place picked, Token.ofJson_toJson wellFormed, bind, Except.bind]
      rfl
  · next negative => rw [pick?, if_neg negative]

theorem checkedEdit?_eq_ok (s : Session) (index : Int) (text : RawText) :
    s.checkedEdit? index text = .ok (s.editToken? index text) := by
  have wellFormed := (Fragment.isTyped_classify text).wellFormed
  rw [checkedEdit?, editToken?, Token.ofJson_toJson wellFormed]
  split <;> rfl

theorem All.checked (all : s.All Token.WellFormed) (op : Operation) :
    op.checked s = .ok (op.perform s) := by
  cases op with
  | press key =>
    rw [Operation.checked, all.checkedPress]
    rfl
  | pick index =>
    rw [Operation.checked, all.checkedPick?]
    rfl
  | edit index text =>
    rw [Operation.checked, checkedEdit?_eq_ok]
    rfl
  | _ => rfl

end Session

/-- However a session has been used, the fields of each of its tokens fit together, and every record
that its next operation builds is accepted. Setting the fragment builds none. -/
theorem World.tokens_fit {formula : Formula} {bindings : Bindings} {events : List Event} {w : World}
    (given : ∀ t ∈ formula, t.WellFormed)
    (found : ∀ i l, .arrive i l ∈ events → ∀ x ∈ l, Suggestion.WellFormed x)
    (ran : (World.new formula bindings).run events = some w) :
    (∀ t ∈ w.session.formula, t.fields.Fit) ∧
      ∀ op : Operation, op.checked w.session = .ok (op.perform w.session) := by
  have new : (World.new formula bindings).session.All Token.WellFormed :=
    ⟨given, List.forall_mem_nil _⟩
  have finds : ∀ event ∈ events, Event.Finds Token.WellFormed event := by
    intro event member
    cases event with
    | arrive i l =>
      exact fun x listed => Suggestion.wellFormed_toToken.mpr (found i l member x listed)
    | _ => trivial
  have all := all_of_run new (fun _ typed => typed.wellFormed) finds ran
  exact ⟨fun t member => Token.fit_fields.mpr (all.tokens t member), all.checked⟩

/-- A suggestion is picked behind a number that is too large to be one. -/
def World.pickedBehindText : List Event :=
  [.start "1e999", .operate (.press (.operator .plus)), .start "re", .arrive 1 [⟨"17", "revenue"⟩],
    .operate (.pick 0)]

theorem World.tokens_fit_pickedBehindText :
    ∃ w, (World.new [] []).run pickedBehindText = some w ∧
      w.session.formula =
        [.text "1e999", .operator .plus, .variable "17" "revenue" (.int 0)] ∧
      (∀ t ∈ w.session.formula, t.fields.Fit) ∧
      ∀ op : Operation, op.checked w.session = .ok (op.perform w.session) := by
  have ran : (World.new [] []).run pickedBehindText = some
      ⟨{ formula := [.text "1e999", .operator .plus, .variable "17" "revenue" (.int 0)],
         number := 4 },
        [⟨"1e999", .waiting ⟨"1e999", 1⟩, true⟩,
          ⟨"re", .returned [⟨"17", "revenue"⟩] true, true⟩]⟩ := by decide
  have found : ∀ i l, .arrive i l ∈ pickedBehindText → ∀ x ∈ l, Suggestion.WellFormed x := by
    simp [pickedBehindText, Suggestion.WellFormed]
  have given : ∀ t ∈ ([] : Formula), t.WellFormed := List.forall_mem_nil _
  exact ⟨_, ran, rfl, tokens_fit given found ran⟩

end FormulaEditor
