import Mathlib.Data.Bool.AllAny
import FormulaEditor.Proofs.Server.Evaluation
import FormulaEditor.Proofs.Server.Target
import FormulaEditor.Proofs.Validation.Integer

/-! # Requests for a token

A token is shown, replaced and removed by requests for its position.  Showing and removing are
answered with status 404 just if there is no token at the position; replacing is so too when the text
is blank, although the token is there.
-/

namespace FormulaEditor

namespace Session

variable {s : Session} {index : Int}

theorem exists_tokenAt? (place : 0 ≤ index ∧ index < s.formula.length) :
    ∃ t, s.tokenAt? index = some t := by
  have inside : index.toNat < s.formula.length := by omega
  rw [tokenAt?, Formula.tokenAt?, Formula.place?, if_pos place]
  exact ⟨_, List.getElem?_eq_getElem inside⟩

theorem tokenAt?_eq_none (outside : ¬ (0 ≤ index ∧ index < s.formula.length)) :
    s.tokenAt? index = none := by
  rw [tokenAt?, Formula.tokenAt?, Formula.place?, if_neg outside]
  rfl

end Session

namespace Server

/-! ## Targets of tokens -/

/-- The target leads to the token at a position, which is given as a whole number. -/
def AddressesToken (target : String) (position : Int) : Prop :=
  ∃ t index, Target.ofString target = .ok t ∧ resolve "GET" t.path = .endpoint (.token index) ∧
    checkIndex index = .ok position

theorem segments_of_forall {isMark : Char → Bool} {s : List Char}
    (unmarked : ∀ c ∈ s, isMark c = false) : Text.segments isMark s = [s] := by
  induction s with
  | nil => rfl
  | cons c rest ih =>
    obtain ⟨first, others⟩ := List.forall_mem_cons.mp unmarked
    rw [Text.segments, first, ih others]
    rfl

theorem segments_append {isMark : Char → Bool} {front : List Char} {mark : Char}
    (unmarked : ∀ c ∈ front, isMark c = false) (marked : isMark mark = true) (back : List Char) :
    Text.segments isMark (front ++ mark :: back) = front :: Text.segments isMark back := by
  induction front with
  | nil =>
    rw [List.nil_append, Text.segments, if_pos marked]
  | cons c rest ih =>
    obtain ⟨first, others⟩ := List.forall_mem_cons.mp unmarked
    rw [List.cons_append, Text.segments, first, ih others]
    rfl

theorem methodsAt_token {index : String} (nonempty : index ≠ "") :
    methodsAt ["formula", "tokens", index] =
      [("GET", .token index), ("PUT", .editToken index), ("DELETE", .deleteToken index)] := by
  rw [methodsAt, if_neg nonempty]

/-- A position is written as digits, perhaps with a minus in front. -/
theorem toList_toString_cases (position : Int) :
    (toString position).toList = Nat.toDigits 10 position.natAbs ∨
      (toString position).toList = '-' :: Nat.toDigits 10 position.natAbs := by
  cases position with
  | ofNat n => exact .inl (Number.toList_text_natural n)
  | negSucc n => exact .inr (Number.toList_text_negSucc n)

theorem isPlain_of_mem_toString {position : Int} :
    ∀ c ∈ (toString position).toList, Address.IsPlain c ∧ (c == '/') = false := by
  have digits : ∀ c ∈ Nat.toDigits 10 position.natAbs, Address.IsPlain c ∧ (c == '/') = false := by
    intro c member
    have digit := Text.isDigit_of_mem_toDigits member
    refine ⟨Address.isPlain_of_isDigit digit, beq_eq_false_iff_ne.mpr ?_⟩
    rintro rfl
    cases digit
  rcases toList_toString_cases position with written | written
  · rwa [written]
  · rw [written]
    exact List.forall_mem_cons.mpr ⟨by decide, digits⟩

/-- The path of the token at a position. -/
def tokenPath (position : Int) : List Char :=
  '/' :: ("formula".toList ++ '/' :: ("tokens".toList ++ '/' :: (toString position).toList))

theorem methodsOf_tokenPath (position : Int) :
    methodsOf (tokenPath position) =
      [("GET", .token (toString position)), ("PUT", .editToken (toString position)),
        ("DELETE", .deleteToken (toString position))] := by
  have last : Text.segments (· == '/') (toString position).toList = [(toString position).toList] :=
    segments_of_forall fun c member => (isPlain_of_mem_toString c member).2
  have nonempty : toString position ≠ "" := by
    intro empty
    have none := congrArg String.toList empty
    rcases toList_toString_cases position with written | written
    · exact Nat.toDigits_ne_nil (written.symm.trans none)
    · cases written.symm.trans none
  have methods : methodsBehindSlash
      ("formula".toList ++ '/' :: ("tokens".toList ++ '/' :: (toString position).toList)) =
        [("GET", .token (toString position)), ("PUT", .editToken (toString position)),
          ("DELETE", .deleteToken (toString position))] := by
    have formula : ∀ c ∈ "formula".toList, (c == '/') = false := List.all_iff_forall_prop.mp rfl
    have tokens : ∀ c ∈ "tokens".toList, (c == '/') = false := List.all_iff_forall_prop.mp rfl
    rw [methodsBehindSlash, segments_append formula rfl, segments_append tokens rfl, last]
    simp only [List.map_cons, List.map_nil, String.ofList_toList]
    exact methodsAt_token nonempty
  rw [tokenPath, methodsOf, methods]

/-- Every position has a target, unless its number is too long to be read. -/
theorem addressesToken_tokenPath {position : Int}
    (short : (Nat.toDigits 10 position.natAbs).length ≤ integerDigitLimit) :
    AddressesToken (String.ofList (tokenPath position)) position := by
  have number : ∀ c ∈ (toString position).toList, Address.IsPlain c := fun c member =>
    (isPlain_of_mem_toString c member).1
  have slash : Address.IsPlain '/' := by decide
  have formula : ∀ c ∈ "formula".toList, Address.IsPlain c := List.all_iff_forall_prop.mp rfl
  have tokens : ∀ c ∈ "tokens".toList, Address.IsPlain c := List.all_iff_forall_prop.mp rfl
  have plain : ∀ c ∈ tokenPath position, Address.IsPlain c := by
    have last := List.forall_mem_cons.mpr ⟨slash, number⟩
    have behind := List.forall_mem_cons.mpr ⟨slash, List.forall_mem_append.mpr ⟨tokens, last⟩⟩
    exact List.forall_mem_cons.mpr ⟨slash, List.forall_mem_append.mpr ⟨formula, behind⟩⟩
  have fits : (tokenPath position).length ≤ Address.lengthLimit := by
    have formula : "formula".toList.length = 7 := by decide
    have tokens : "tokens".toList.length = 6 := by decide
    rw [integerDigitLimit] at short
    simp only [tokenPath, List.length_cons, List.length_append, formula, tokens,
      Address.lengthLimit]
    rcases toList_toString_cases position with written | written
    · rw [written]
      omega
    · rw [written, List.length_cons]
      omega
  refine ⟨_, toString position, Target.ofString_plain rfl (by decide) plain fits, ?_, ?_⟩
  · rw [resolve, methodsOf_tokenPath]
    rfl
  · rw [checkIndex, Coercion.int_toString short]
    rfl

/-! ## What the path leads to -/

theorem methodsAt_of_lookup {segments : List String} {index : String}
    (found : (methodsAt segments).lookup "GET" = some (.token index)) :
    methodsAt segments =
      [("GET", .token index), ("PUT", .editToken index), ("DELETE", .deleteToken index)] := by
  revert found
  fun_cases methodsAt segments
  all_goals intro found
  case case8 =>
    cases found
    rfl
  all_goals cases found

theorem methodsOf_of_lookup {path : List Char} {index : String}
    (found : (methodsOf path).lookup "GET" = some (.token index)) :
    methodsOf path =
      [("GET", .token index), ("PUT", .editToken index), ("DELETE", .deleteToken index)] := by
  revert found
  fun_cases methodsOf path
  all_goals intro found
  · exact methodsAt_of_lookup found
  · cases found
  · exact methodsAt_of_lookup found
  · cases found

/-- A path at which a token is shown is one at which it is replaced and removed. -/
theorem resolve_of_resolve {path : List Char} {index : String}
    (leads : resolve "GET" path = .endpoint (.token index)) :
    resolve "PUT" path = .endpoint (.editToken index) ∧
      resolve "DELETE" path = .endpoint (.deleteToken index) := by
  have methods : methodsOf path =
      [("GET", .token index), ("PUT", .editToken index), ("DELETE", .deleteToken index)] := by
    apply methodsOf_of_lookup
    rw [resolve] at leads
    split at leads
    · split at leads <;> cases leads
    · split at leads
      · next e listed =>
        cases leads
        exact listed
      · cases leads
  rw [resolve, resolve, methods]
  exact ⟨rfl, rfl⟩

/-! ## Bodies that hold a text -/

/-- The body is an object whose member for the text passes the check of requests. -/
def HoldsText (body text : String) : Prop :=
  ∃ fields, Json.readBody body = .ok (.obj fields) ∧
    Json.member? fields "text" = some (.str (.whole text)) ∧ text ≠ ""

theorem checkBody_text {fields : List (RawText × Json)} {text : String}
    (given : Json.member? fields "text" = some (.str (.whole text))) (nonempty : text ≠ "") :
    checkBody (Checked.required · "text" Coercion.nonemptyString) (some (.obj fields)) =
      .ok text := by
  have accepted : Coercion.nonemptyString (.str (.whole text)) = .ok text :=
    Suggestion.nonemptyString_eq_ok_iff.mpr ⟨nonempty, rfl⟩
  rw [checkBody, Checked.required, given]
  simp only [accepted]
  rfl

/-- The object whose one member is the text. -/
def textBody (text : String) : Json := .obj [("text", .str text)]

/-- Every text but the empty one can be sent. -/
theorem holdsText_textBody {text : String} (nonempty : text ≠ "") :
    ∃ body, (textBody text).compact = .whole body ∧ HoldsText body text := by
  have readsBack : Json.ReadsBack Json.nestingLimit (textBody text) := by
    refine Json.readsBack_obj rfl ?_
    rw [List.forall_mem_singleton]
    exact Json.readsBack_str _
  obtain ⟨body, written, read⟩ := Json.readBody_compact rfl readsBack
  exact ⟨body, written, _, read, rfl, nonempty⟩

/-! ## Answers -/

/-- The answer says that there is nothing at the position. -/
def Answer.IsNotFound (answer : Answer) : Prop := ∃ body, answer = .reply 404 body

theorem Answer.not_isNotFound_success (body : Json) : ¬ (success body).IsNotFound := by
  rintro ⟨shown, same⟩
  rw [success] at same
  split at same <;> cases same

theorem Answer.isNotFound_noToken (position : Int) : (noToken position).IsNotFound := ⟨_, rfl⟩

namespace App

variable {app : App} {target : String} {position : Int}

/-- There is a token at the position. -/
def HasToken (app : App) (position : Int) : Prop :=
  0 ≤ position ∧ position < app.editor.session.formula.length

theorem not_isNotFound_shown (app : App) : ¬ app.shown.2.IsNotFound := by
  rw [shown]
  rintro ⟨body, same⟩
  cases viewed : app.editor.session.view with
  | ok view =>
    rw [viewed] at same
    exact Answer.not_isNotFound_success _ ⟨body, same⟩
  | error e =>
    rw [viewed] at same
    cases same

theorem isNotFound_shownOr_iff {next? : Option Session} :
    (app.shownOr (.noToken position) next?).2.IsNotFound ↔ next? = none := by
  cases next? with
  | none => exact iff_of_true (Answer.isNotFound_noToken position) rfl
  | some next => exact iff_of_false (not_isNotFound_shown _) (Option.some_ne_none _)

/-- Showing a token fails just if there is none. -/
theorem isNotFound_get_iff (addressed : AddressesToken target position) (body : Option String) :
    (app.handle ⟨"GET", target, body⟩).2.IsNotFound ↔ ¬ app.HasToken position := by
  obtain ⟨t, index, read, leads, checks⟩ := addressed
  have method : Text.upper "GET" = "GET" := by decide
  rw [handle, read]
  simp only [answer, method, leads, perform, checks, checked]
  by_cases has : app.HasToken position
  · obtain ⟨token, found⟩ := Session.exists_tokenAt? has
    rw [found]
    exact iff_of_false (Answer.not_isNotFound_success _) (not_not_intro has)
  · rw [Session.tokenAt?_eq_none has]
    exact iff_of_true (Answer.isNotFound_noToken position) has

/-- Removing a token fails just if there is none. -/
theorem isNotFound_delete_iff (addressed : AddressesToken target position)
    (body : Option String) :
    (app.handle ⟨"DELETE", target, body⟩).2.IsNotFound ↔ ¬ app.HasToken position := by
  obtain ⟨t, index, read, leads, checks⟩ := addressed
  have method : Text.upper "DELETE" = "DELETE" := by decide
  rw [handle, read]
  simp only [answer, method, (resolve_of_resolve leads).2, perform, checks, checked]
  rw [isNotFound_shownOr_iff]
  by_cases has : app.HasToken position
  · rw [Session.deleteToken?_eq_some has]
    exact iff_of_false (Option.some_ne_none _) (not_not_intro has)
  · exact iff_of_true (Session.deleteToken?_eq_none has) has

/-- Replacing a token fails if there is none, or if the text is blank. -/
theorem isNotFound_put_iff (addressed : AddressesToken target position) {body text : String}
    (holds : HoldsText body text) :
    (app.handle ⟨"PUT", target, some body⟩).2.IsNotFound ↔
      ¬ app.HasToken position ∨ Text.isBlankText text = true := by
  obtain ⟨t, index, read, leads, checks⟩ := addressed
  obtain ⟨fields, readBody, given, nonempty⟩ := holds
  have method : Text.upper "PUT" = "PUT" := by decide
  rw [handle, read]
  simp only [answer, method, (resolve_of_resolve leads).1, perform, withBody,
    readBody_of_ok readBody, checks, checkBody_text given nonempty, Checked.both, checked]
  rw [isNotFound_shownOr_iff]
  by_cases has : app.HasToken position
  · by_cases blank : (RawText.whole text).isBlank = true
    · exact iff_of_true (Session.editToken?_eq_none (.inl blank)) (.inr blank)
    · rw [Session.editToken?_eq_some blank has]
      exact iff_of_false (Option.some_ne_none _) (not_or_intro (not_not_intro has) blank)
  · exact iff_of_true (Session.editToken?_eq_none (.inr has)) (.inl has)

/-- Replacing a token, like showing it and removing it, is answered with status 404 if there is no
token at the position; but it is answered so too when the text is blank.  So it agrees with showing
the token just if there is none or the text is not blank. -/
theorem replacing_agrees_with_showing_iff (app : App) (addressed : AddressesToken target position)
    {body text : String} (holds : HoldsText body text) (shownWith removedWith : Option String) :
    ((app.handle ⟨"GET", target, shownWith⟩).2.IsNotFound ↔ ¬ app.HasToken position) ∧
      ((app.handle ⟨"DELETE", target, removedWith⟩).2.IsNotFound ↔ ¬ app.HasToken position) ∧
      ((app.handle ⟨"PUT", target, some body⟩).2.IsNotFound ↔
        ¬ app.HasToken position ∨ Text.isBlankText text = true) ∧
      (((app.handle ⟨"PUT", target, some body⟩).2.IsNotFound ↔
          (app.handle ⟨"GET", target, shownWith⟩).2.IsNotFound) ↔
        (app.HasToken position → Text.isBlankText text = false)) := by
  have shown : (app.handle ⟨"GET", target, shownWith⟩).2.IsNotFound ↔ ¬ app.HasToken position :=
    isNotFound_get_iff addressed shownWith
  have replaced : (app.handle ⟨"PUT", target, some body⟩).2.IsNotFound ↔
      ¬ app.HasToken position ∨ Text.isBlankText text = true := isNotFound_put_iff addressed holds
  refine ⟨shown, isNotFound_delete_iff addressed removedWith, replaced, ?_⟩
  rw [shown, replaced, or_iff_left_iff_imp, ← Bool.not_eq_true]
  exact ⟨fun absent has blank => absent blank has, fun spares blank has => spares has blank⟩

/-- A state in which the suggestion that was listed has been picked. -/
theorem reachable_picked :
    Reachable
      ⟨⟨{ formula := [.variable "v1" "Cena" (.int 0)], number := 2 }, .catalogue []⟩, "0.1.0"⟩ :=
  reachable_listing.handle ⟨"POST", "/formula/suggestions/0", none⟩

theorem addressesToken_zero : AddressesToken "/formula/tokens/0" 0 := by
  have short : (Nat.toDigits 10 (0 : Int).natAbs).length ≤ integerDigitLimit := by decide
  have path : String.ofList (tokenPath 0) = "/formula/tokens/0" := by decide
  rw [← path]
  exact addressesToken_tokenPath short

theorem replacing_agrees_with_showing_iff_picked :
    ∃ app : App, app.Reachable ∧ AddressesToken "/formula/tokens/0" 0 ∧
      ∃ body, HoldsText body "8" ∧
      ((app.handle ⟨"PUT", "/formula/tokens/0", some body⟩).2.IsNotFound ↔
          (app.handle ⟨"GET", "/formula/tokens/0", none⟩).2.IsNotFound) := by
  have nonempty : "8" ≠ "" := by decide
  obtain ⟨body, -, holds⟩ := holdsText_textBody nonempty
  refine ⟨_, reachable_picked, addressesToken_zero, body, holds, ?_⟩
  exact (replacing_agrees_with_showing_iff _ addressesToken_zero holds none none).2.2.2.mpr
    fun _ => rfl

theorem holdsText_blank : HoldsText "\x7b\"text\":\" \"\x7d" " " := by
  have nonempty : " " ≠ "" := by decide
  obtain ⟨body, written, holds⟩ := holdsText_textBody nonempty
  have same : (textBody " ").compact = .whole "\x7b\"text\":\" \"\x7d" := by decide
  rw [same] at written
  cases written
  exact holds

/-- There is a token at the first position, and a request to replace it by a blank text is answered as
if there were none. -/
theorem replacing_by_blank_is_notFound :
    ∃ app : App, app.Reachable ∧ app.HasToken 0 ∧ AddressesToken "/formula/tokens/0" 0 ∧
      HoldsText "\x7b\"text\":\" \"\x7d" " " ∧
      (app.handle ⟨"PUT", "/formula/tokens/0", some "\x7b\"text\":\" \"\x7d"⟩).2.IsNotFound ∧
      ¬ (app.handle ⟨"GET", "/formula/tokens/0", none⟩).2.IsNotFound := by
  have has : App.HasToken
      ⟨⟨{ formula := [.variable "v1" "Cena" (.int 0)], number := 2 }, .catalogue []⟩, "0.1.0"⟩
      0 := ⟨by decide, by decide⟩
  refine ⟨_, reachable_picked, has, addressesToken_zero, holdsText_blank, ?_, ?_⟩
  · exact (isNotFound_put_iff addressesToken_zero holdsText_blank).mpr (.inr rfl)
  · exact fun absent => (isNotFound_get_iff addressesToken_zero none).mp absent has

end App

end Server

end FormulaEditor
