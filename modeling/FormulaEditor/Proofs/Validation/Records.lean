import FormulaEditor.Proofs.Formula.Labels
import FormulaEditor.Validation.Session

/-! # Records that are accepted

Fields make a token just if they fit together, and the token keeps them.  Every token and every
suggestion that a record is accepted for is well formed, and all that is well formed is accepted as
itself when it is written as a record again.
-/

namespace FormulaEditor

/-! ## Checks that pass -/

namespace Checked

theorem map_eq_ok_iff {ε α β : Type} {f : α → β} {x : Except ε α} {b : β} :
    x.map f = .ok b ↔ ∃ a, x = .ok a ∧ f a = b := by
  cases x <;> simp [Except.map]

variable {α : Type} {check : Json → Checked α} {write : α → Json}

/-- A list whose items are accepted as what they are written for is so too. -/
theorem list_map {values : List α} (accepted : ∀ a ∈ values, check (write a) = .ok a) :
    list check (.arr (values.map write)) = .ok values := by
  have items (index : Nat) : itemsFrom check index (values.map write) = .ok values := by
    induction values generalizing index with
    | nil => rfl
    | cons a rest ih =>
      rw [List.forall_mem_cons] at accepted
      rw [List.map_cons, itemsFrom, accepted.1, ih accepted.2]
      rfl
  exact items 0

theorem both_eq_ok_iff {β : Type} {first : Checked α} {second : Checked β} {pair : α × β} :
    both first second = .ok pair ↔ first = .ok pair.1 ∧ second = .ok pair.2 := by
  cases first <;> cases second <;> simp [both, Prod.ext_iff]

theorem within_eq_ok_iff {segment : Segment} {part : Checked α} {a : α} :
    within segment part = .ok a ↔ part = .ok a := by
  cases part with
  | ok b => exact Iff.rfl
  | error issues => exact iff_of_false (by rintro ⟨⟩) (by rintro ⟨⟩)

theorem required_eq_ok_iff {members : List (RawText × Json)} {name : String} {a : α} :
    required members name check = .ok a ↔
      ∃ value, Json.member? members name = some value ∧ check value = .ok a := by
  rw [required]
  cases Json.member? members name with
  | none => exact iff_of_false nofun nofun
  | some value => simp only [within_eq_ok_iff, Option.some.injEq, exists_eq_left']

end Checked

/-! ## Fields that make a token -/

theorem Operator.ofSymbol?_symbol (op : Operator) : ofSymbol? op.symbol = some op := by
  cases op <;> decide

theorem Operator.symbol_inj {op op' : Operator} : op.symbol = op'.symbol ↔ op = op' := by
  refine ⟨fun same => ?_, congrArg _⟩
  rw [← Option.some_inj, ← ofSymbol?_symbol, same, ofSymbol?_symbol]

namespace Token

/-- The fields fit together: a variable has a name, an identifier and a finite number, and no other
kind has a name or an identifier; a number token holds a finite number, an operator token one of the
symbols and a text token a text. -/
def Fields.Fit (f : Fields) : Prop :=
  match f.kind with
  | .variable =>
    (∃ name, name ≠ RawText.whole "" ∧ f.name = some name) ∧
      (∃ id, id ≠ RawText.whole "" ∧ f.id = some id) ∧
      ∃ n : Number, n.isFinite = true ∧ f.value = .number n
  | .number =>
    f.name = none ∧ f.id = none ∧ ∃ n : Number, n.isFinite = true ∧ f.value = .number n
  | .operator => f.name = none ∧ f.id = none ∧ ∃ op : Operator, f.value = .text op.symbol
  | .text => f.name = none ∧ f.id = none ∧ ∃ s, f.value = .text s

theorem fit_fields {t : Token} : t.fields.Fit ↔ t.WellFormed := by
  cases t with
  | «variable» id name value => simp [fields, Fields.Fit, WellFormed, and_left_comm]
  | operator op => exact iff_of_true ⟨rfl, rfl, op, rfl⟩ trivial
  | number value => simp [fields, Fields.Fit, WellFormed]
  | text s => simp [fields, Fields.Fit, WellFormed]

theorem nonempty?_eq_some_iff {s? : Option RawText} {s : RawText} :
    nonempty? s? = some s ↔ s ≠ "" ∧ s? = some s := by
  cases s? with
  | none => simp [nonempty?]
  | some given =>
    by_cases empty : given = ""
    · simp only [nonempty?, if_pos empty, Option.some.injEq]
      exact iff_of_false nofun fun ⟨nonempty, same⟩ => nonempty (same ▸ empty)
    · simp only [nonempty?, if_neg empty, Option.some.injEq]
      exact ⟨fun same => ⟨same ▸ empty, same⟩, fun ⟨_, same⟩ => same⟩

theorem finite_eq_ok_iff {kind : Kind} {value : Content} {n : Number} :
    value.finite kind = .ok n ↔ n.isFinite = true ∧ value = .number n := by
  cases value with
  | text s => simp [Content.finite]
  | number m =>
    rw [Content.finite]
    split
    · next finite =>
      simp only [Except.ok.injEq, Content.number.injEq]
      exact ⟨fun same => ⟨same ▸ finite, same⟩, fun ⟨_, same⟩ => same⟩
    · next infinite =>
      simp only [reduceCtorEq, Content.number.injEq, false_iff]
      exact fun ⟨finite, same⟩ => infinite (same ▸ finite)

/-- The fields of a well-formed token make it again. -/
theorem ofFields_fields {t : Token} (wellFormed : t.WellFormed) : ofFields t.fields = .ok t := by
  cases t with
  | «variable» id name value =>
    obtain ⟨named, titled, finite⟩ := wellFormed
    have name? := nonempty?_eq_some_iff.mpr ⟨titled, rfl⟩
    have id? := nonempty?_eq_some_iff.mpr ⟨named, rfl⟩
    simp [ofFields, fields, name?, id?, Content.finite, finite, Except.map]
  | operator op => simp [ofFields, fields, RawText.toString?, Operator.ofSymbol?_symbol]
  | number value =>
    have finite : value.isFinite = true := wellFormed
    simp [ofFields, fields, Content.finite, finite, Except.map]
  | text s => rfl

/-- Only variables have a name or an identifier. -/
theorem unnamed_of_ofFields {f : Fields} {t : Token} (made : ofFields f = .ok t)
    (other : f.kind ≠ .variable) : f.name = none ∧ f.id = none := by
  have refused : ¬ (f.name.isSome || f.id.isSome) = true := by
    intro named
    cases kind : f.kind <;> simp_all [ofFields]
  simpa using refused

/-- Fields that make a token are the fields of a well-formed one. -/
theorem ofFields_eq_ok {f : Fields} {t : Token} (made : ofFields f = .ok t) :
    t.WellFormed ∧ t.fields = f := by
  have unnamed := unnamed_of_ofFields made
  obtain ⟨kind, value, name, id⟩ := f
  cases kind with
  | «variable» =>
    simp only [ofFields] at made
    split at made
    · next name' id' titled named =>
      obtain ⟨n, finite, rfl⟩ := Checked.map_eq_ok_iff.mp made
      rw [nonempty?_eq_some_iff] at titled named
      rw [finite_eq_ok_iff] at finite
      obtain ⟨titled, rfl⟩ := titled
      obtain ⟨named, rfl⟩ := named
      obtain ⟨finite, rfl⟩ := finite
      exact ⟨⟨named, titled, finite⟩, rfl⟩
    · cases made
  | operator =>
    obtain ⟨rfl, rfl⟩ : name = none ∧ id = none := unnamed nofun
    cases value with
    | number n => simp [ofFields] at made
    | text s =>
      cases s with
      | torn => simp [ofFields, RawText.toString?] at made
      | whole symbol =>
        cases found : Operator.ofSymbol? symbol with
        | none => simp [ofFields, RawText.toString?, found] at made
        | some op =>
          obtain rfl : Token.operator op = t := by
            simpa [ofFields, RawText.toString?, found] using made
          rw [← Operator.symbol_of_ofSymbol? found]
          exact ⟨trivial, rfl⟩
  | number =>
    obtain ⟨rfl, rfl⟩ : name = none ∧ id = none := unnamed nofun
    obtain ⟨n, finite, rfl⟩ : ∃ n, value.finite .number = .ok n ∧ Token.number n = t :=
      Checked.map_eq_ok_iff.mp made
    rw [finite_eq_ok_iff] at finite
    obtain ⟨finite, rfl⟩ := finite
    exact ⟨finite, rfl⟩
  | text =>
    obtain ⟨rfl, rfl⟩ : name = none ∧ id = none := unnamed nofun
    cases value with
    | number n => simp [ofFields] at made
    | text s =>
      obtain rfl : Token.text s = t := by simpa [ofFields] using made
      exact ⟨trivial, rfl⟩

theorem ofFields_eq_ok_iff {f : Fields} {t : Token} :
    ofFields f = .ok t ↔ t.WellFormed ∧ t.fields = f := by
  refine ⟨ofFields_eq_ok, ?_⟩
  rintro ⟨wellFormed, rfl⟩
  exact ofFields_fields wellFormed

end Token

/-! ## Records -/

namespace Token

/-- The members of written fields give the fields again, whether they fit together or not. -/
theorem checkFields_toJson {f : Fields} {members : List (RawText × Json)}
    (written : f.toJson = .obj members) : checkFields members = .ok f := by
  obtain ⟨kind, value, name, id⟩ := f
  cases written
  cases kind <;> cases value <;> cases name <;> cases id <;> rfl

theorem ofJson_obj_eq_ok_iff {noRecord : IssueKind} {members : List (RawText × Json)} {t : Token} :
    ofJson noRecord (.obj members) = .ok t ↔
      ∃ f, checkFields members = .ok f ∧ ofFields f = .ok t := by
  rw [ofJson]
  cases checkFields members with
  | error issues => simp
  | ok f =>
    simp only [Except.ok.injEq, exists_eq_left']
    cases ofFields f with
    | error fault => exact iff_of_false (by rintro ⟨⟩) (by rintro ⟨⟩)
    | ok made =>
      constructor <;>
      · rintro ⟨⟩
        rfl

/-- A well-formed token is accepted as itself. -/
theorem ofJson_toJson {t : Token} (wellFormed : t.WellFormed) (noRecord : IssueKind) :
    ofJson noRecord t.toJson = .ok t :=
  ofJson_obj_eq_ok_iff.mpr ⟨t.fields, checkFields_toJson rfl, ofFields_fields wellFormed⟩

/-- Only well-formed tokens are accepted. -/
theorem wellFormed_of_ofJson {noRecord : IssueKind} {v : Json} {t : Token}
    (accepted : ofJson noRecord v = .ok t) : t.WellFormed := by
  cases v with
  | obj members =>
    obtain ⟨f, -, made⟩ := ofJson_obj_eq_ok_iff.mp accepted
    exact (ofFields_eq_ok made).1
  | _ => cases accepted

end Token

namespace Suggestion

theorem nonemptyString_eq_ok_iff {v : Json} {s : String} :
    Coercion.nonemptyString v = .ok s ↔ s ≠ "" ∧ v = .str s := by
  cases v with
  | str given =>
    cases given with
    | torn => simp [Coercion.nonemptyString, Coercion.string, Checked.refuse]
    | whole given =>
      by_cases empty : given = ""
      · simp [Coercion.nonemptyString, Coercion.string, Checked.refuse, empty, eq_comm]
      · simp only [Coercion.nonemptyString, Coercion.string, if_neg empty, Except.ok.injEq,
          Json.str.injEq, RawText.whole.injEq]
        exact ⟨fun same => ⟨same ▸ empty, same⟩, fun ⟨_, same⟩ => same⟩
  | _ => simp [Coercion.nonemptyString, Coercion.string, Checked.refuse]

/-- The member of an entry that stands for an identifier: a text, or a whole number by its digits,
as long as it can be written. -/
inductive StandsForId : Json → String → Prop where
  | text {s : String} (nonempty : s ≠ "") : StandsForId (.str s) s
  | digits {n : Int} {s : String} (written : (Number.int n).text? = some s) :
    StandsForId (.int n) s

theorem StandsForId.ne_empty {v : Json} {s : String} (stands : StandsForId v s) : s ≠ "" := by
  cases stands with
  | text nonempty => exact nonempty
  | @digits n _ written =>
    obtain ⟨-, rfl⟩ := Number.text?_eq_some_iff.mp written
    cases n <;> simp [Number.text, toString, Int.repr, Nat.repr]

theorem checkId_eq_ok_iff {v : Json} {s : String} : checkId v = .ok s ↔ StandsForId v s := by
  constructor
  · intro accepted
    unfold checkId at accepted
    split at accepted
    · split at accepted
      · next digits written =>
        cases accepted
        exact .digits written
      · cases accepted
    · obtain ⟨nonempty, rfl⟩ := nonemptyString_eq_ok_iff.mp accepted
      exact .text nonempty
  · intro stands
    cases stands with
    | text nonempty => exact nonemptyString_eq_ok_iff.mpr ⟨nonempty, rfl⟩
    | digits written =>
      unfold checkId
      simp only [Json.int, written]

/-- The value is an object that describes the suggestion, whatever else it holds. -/
def DescribedBy (s : Suggestion) (v : Json) : Prop :=
  ∃ members id, v = .obj members ∧ Json.member? members "id" = some id ∧ StandsForId id s.id ∧
    Json.member? members "name" = some (.str s.name) ∧ s.name ≠ ""

/-- Just the values that describe a suggestion are accepted. -/
theorem ofJson_eq_ok_iff {v : Json} {s : Suggestion} : ofJson v = .ok s ↔ s.DescribedBy v := by
  constructor
  · intro accepted
    cases v with
    | obj members =>
      obtain ⟨⟨id, name⟩, checked, rfl⟩ := Checked.map_eq_ok_iff.mp accepted
      obtain ⟨id, name⟩ := Checked.both_eq_ok_iff.mp checked
      obtain ⟨value, hasId, id⟩ := Checked.required_eq_ok_iff.mp id
      obtain ⟨value', hasName, name⟩ := Checked.required_eq_ok_iff.mp name
      obtain ⟨nonempty, rfl⟩ := nonemptyString_eq_ok_iff.mp name
      exact ⟨members, value, rfl, hasId, checkId_eq_ok_iff.mp id, hasName, nonempty⟩
    | _ => cases accepted
  · rintro ⟨members, value, rfl, hasId, stands, hasName, nonempty⟩
    have id := Checked.required_eq_ok_iff.mpr ⟨value, hasId, checkId_eq_ok_iff.mpr stands⟩
    have name := Checked.required_eq_ok_iff.mpr
      ⟨_, hasName, nonemptyString_eq_ok_iff.mpr ⟨nonempty, rfl⟩⟩
    rw [ofJson, id, name]
    rfl

/-- A well-formed suggestion is accepted as itself. -/
theorem ofJson_toJson {s : Suggestion} (wellFormed : s.WellFormed) : ofJson s.toJson = .ok s :=
  ofJson_eq_ok_iff.mpr ⟨_, _, rfl, rfl, .text wellFormed.1, rfl, wellFormed.2⟩

/-- Only well-formed suggestions are accepted. -/
theorem wellFormed_of_ofJson {v : Json} {s : Suggestion} (accepted : ofJson v = .ok s) :
    s.WellFormed := by
  obtain ⟨_, _, -, -, stands, -, nonempty⟩ := ofJson_eq_ok_iff.mp accepted
  exact ⟨stands.ne_empty, nonempty⟩

end Suggestion

/-! ## Input states and actions -/

/-- An input state with well-formed suggestions is accepted as itself. -/
theorem InputState.ofJson_toJson {state : InputState}
    (wellFormed : ∀ s ∈ state.suggestions, s.WellFormed) : ofJson state.toJson = .ok state := by
  have suggestions :=
    Checked.list_map fun s member => Suggestion.ofJson_toJson (wellFormed s member)
  change (Checked.both _ (Checked.both (Checked.within _
    (Checked.list Suggestion.ofJson (.arr (state.suggestions.map Suggestion.toJson)))) _)).map _ = _
  rw [suggestions]
  rfl

/-- An action with well-formed tokens is accepted as itself. -/
theorem InputAction.ofJson_toJson {action : InputAction}
    (wellFormed : ∀ t ∈ action.tokens, t.WellFormed) : ofJson action.toJson = .ok action := by
  have tokens :=
    Checked.list_map fun t member => Token.ofJson_toJson (wellFormed t member) Token.notAToken
  obtain ⟨kind, added, highlight, clearPending, closeSuggestions, preventDefault⟩ := action
  change (Checked.both (Checked.within _ (Coercion.word ActionKind.all ActionKind.word
    (.str kind.word))) (Checked.both (Checked.within _ (Checked.list (Token.ofJson Token.notAToken)
      (.arr (added.map Token.toJson)))) (Checked.both _ _))).map _ = _
  rw [tokens]
  cases kind <;> cases highlight <;> rfl

end FormulaEditor
