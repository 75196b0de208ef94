import FormulaEditor.Proofs.Decimal.Rendered
import FormulaEditor.Proofs.Session.Operation
import FormulaEditor.Proofs.Typing.Recognition

/-! # Typing the label of a token again

What is recognised in a fragment is recognised in its own label.  So a token of a formula that was
typed is not changed by replacing it by its label.
-/

namespace FormulaEditor

/-! ## Labels -/

namespace Fragment

/-- Numbers that are typed are in the form that rounding gives, and whole ones are short. -/
theorem isCanonical_of_typed {w : WrittenNumeral} {x : Number}
    (typed : numberOf? w.numeral = some x) : x.IsCanonical := by
  cases x with
  | int n => trivial
  | float x =>
    rw [← numberOf?_eq_float typed]
    exact Decimal.isCanonical_toBinary64 _ _

theorem strip_text (w : WrittenNumeral) :
    RawText.strip (String.ofList w.text) = .whole (String.ofList w.text) := by
  apply RawText.strip_of_solid
  intro g member
  simp only [RawText.glyphs, String.toList_ofList] at member
  obtain ⟨c, inside, rfl⟩ := List.mem_map.mp member
  exact (w.ordinary inside).1

/-- A short whole number is typed by its text. -/
theorem typedNumber?_int {n : Int} (short : (Nat.toDigits 10 n.natAbs).length ≤ wholeDigits) :
    typedNumber? (Number.int n).text = some (.int n) := by
  obtain ⟨w, text, isInteger, value, whole⟩ := Number.exists_written_int n
  rw [typedNumber?_eq_some_iff]
  refine ⟨w, by rw [text, strip_text], numberOf?_eq_int_iff.mpr ⟨isInteger, ?_, value.symm⟩⟩
  rw [WrittenNumeral.numeral, DigitRow.length_values, whole]
  exact short

/-- A finite binary number is typed by its text. -/
theorem typedNumber?_float {x : Binary64} (isFinite : x.isFinite = true)
    (canonical : x.IsCanonical) : typedNumber? (Number.float x).text = some (.float x) := by
  obtain ⟨w, text, isInteger, value⟩ := Binary64.exists_written isFinite canonical
  rw [typedNumber?_eq_some_iff]
  refine ⟨w, by rw [Number.text, text, strip_text], ?_⟩
  rw [numberOf?, isInteger, value, if_pos isFinite]
  simp

theorem typedNumber?_text_of_typed {fragment : RawText} {x : Number}
    (typed : typedNumber? fragment = some x) : typedNumber? x.text = some x := by
  cases x with
  | int n =>
    apply typedNumber?_int
    rw [Nat.length_toDigits_le_iff (by decide) (by decide)]
    exact natAbs_lt_of_typed typed
  | float x =>
    obtain ⟨w, -, denoted⟩ := typedNumber?_eq_some_iff.mp typed
    have finite := isFinite_of_typed denoted
    rw [numberOf?_eq_float denoted] at finite
    exact typedNumber?_float finite (isCanonical_of_typed denoted)

theorem strip_symbol (op : Operator) : RawText.strip op.symbol = op.symbol := by
  cases op <;> decide

/-- What is recognised in a fragment is recognised in its label. -/
theorem classify_label (fragment : RawText) :
    classify (classify fragment).label = classify fragment := by
  rcases classify_cases fragment with ⟨x, typed, kind⟩ | ⟨op, -, -, kind⟩ | ⟨-, -, kind⟩
  · rw [kind, classify_eq_number_iff]
    exact typedNumber?_text_of_typed typed
  · rw [kind, classify_eq_operator_iff]
    exact strip_symbol op
  · rw [kind, ← kind]
    exact classify_congr (by rw [kind, Token.label, RawText.strip_strip])

end Fragment

/-! ## Editing -/

theorem Session.editToken?_same {s : Session} {index : Int} {text : RawText}
    (typed : ¬ text.isBlank = true)
    (found : s.tokenAt? index = some (Fragment.classify text)) :
    s.editToken? index text = some s := by
  rw [tokenAt?, Formula.tokenAt?, Formula.place?] at found
  split at found
  · next place =>
    rw [Option.bind_some, List.getElem?_eq_some_iff] at found
    obtain ⟨inside, found⟩ := found
    rw [editToken?_eq_some typed place, ← found, List.set_getElem_self]
  · cases found

/-- Typing the label of a token again changes nothing: a label is recognised as the token that it is
the label of, and a typed token that is replaced by its label stays what it is, unless the label is
blank and the replacement is refused. -/
theorem Session.relabelling_keeps :
    (∀ fragment,
      Fragment.classify (Fragment.classify fragment).label = Fragment.classify fragment) ∧
    ∀ s : Session, (∀ t ∈ s.formula, ∃ fragment, t = Fragment.classify fragment) →
      ∀ (index : Int) (t : Token), s.tokenAt? index = some t →
        s.editToken? index t.label = if t.label.isBlank = true then none else some s := by
  refine ⟨Fragment.classify_label, fun s typed index t found => ?_⟩
  have member : t ∈ s.formula := by
    obtain ⟨place, -, here⟩ := Option.bind_eq_some_iff.mp found
    exact List.mem_of_getElem? here
  obtain ⟨fragment, rfl⟩ := typed t member
  split
  · next blank => exact editToken?_eq_none (.inl blank)
  · next shown => exact editToken?_same shown (by rw [found, Fragment.classify_label])

/-- A small number is shown with an exponent, and a whole one without the zeros in front. -/
theorem Session.relabelling_keeps_smallNumber :
    let small : Token := .number (.float (.finite true 5902958103587057 (-69)))
    let s : Session := { formula := [small, .operator .times, .number (.int 7)] }
    Fragment.classify "-.00001" = small ∧ small.label = "-1e-05" ∧
      s.editToken? 0 "-1e-05" = some s := by
  have small : Fragment.classify "-.00001" =
      .number (.float (.finite true 5902958103587057 (-69))) := by decide +kernel
  have label : (Token.number (.float (.finite true 5902958103587057 (-69)))).label = "-1e-05" := by
    decide +kernel
  refine ⟨small, label, ?_⟩
  have typed : ∀ t ∈ [Token.number (.float (.finite true 5902958103587057 (-69))),
      .operator .times, .number (.int 7)], ∃ fragment, t = Fragment.classify fragment := by
    simp only [List.forall_mem_cons, List.not_mem_nil, false_imp_iff, implies_true, and_true]
    exact ⟨⟨_, small.symm⟩, ⟨"*", by decide +kernel⟩, ⟨"007", by decide +kernel⟩⟩
  have kept := relabelling_keeps.2 { formula := _ } typed 0 _ rfl
  rw [label] at kept
  exact kept.trans (if_neg (by decide +kernel))

end FormulaEditor
