import Mathlib.Data.Nat.Digits.Defs
import FormulaEditor.Expression.OfTokens
import FormulaEditor.Formula

/-! # Labels that can be written

Every token has a label to show, except for a number of too many digits.  So it is with the text of a
formula, which is made of labels, and with the fault that tells a token by its label.
-/

namespace FormulaEditor

/-! ## Numbers -/

namespace Number

theorem isWritable_int_iff {n : Int} :
    (int n).isWritable = true ↔ n.natAbs < 10 ^ integerDigitLimit := by
  rw [isWritable, decide_eq_true_iff, Nat.length_toDigits_le_iff (by decide) (by decide)]

theorem text?_eq_some_iff {n : Number} {s : String} :
    n.text? = some s ↔ n.isWritable = true ∧ n.text = s := by
  simp [text?]

end Number

/-! ## Tokens -/

namespace Token

variable {t : Token}

/-- The token has a label to show. -/
def IsWritable (t : Token) : Prop := t.label?.isSome = true

/-- Whether a token has a label can be tested. -/
instance : DecidablePred IsWritable := fun t => inferInstanceAs (Decidable (t.label?.isSome = true))

theorem label?_number (value : Number) :
    (number value).label? = if value.isWritable = true then some (.whole value.text) else none := by
  rw [label?, Number.text?]
  split <;> rfl

theorem isWritable_number_iff {value : Number} :
    (number value).IsWritable ↔ value.isWritable = true := by
  rw [IsWritable, label?_number]
  split <;> simp_all

theorem IsWritable.label? (writable : t.IsWritable) : t.label? = some t.label := by
  cases t with
  | number value =>
    rw [label?_number, if_pos (isWritable_number_iff.mp writable)]
    rfl
  | _ => rfl

/-- Only a whole number of too many digits has no label. -/
theorem not_isWritable_iff :
    ¬ t.IsWritable ↔ ∃ n : Int, t = .number (.int n) ∧ 10 ^ integerDigitLimit ≤ n.natAbs := by
  constructor
  · intro unwritable
    cases t with
    | number value =>
      cases value with
      | int n =>
        rw [isWritable_number_iff, Number.isWritable_int_iff] at unwritable
        exact ⟨n, rfl, Nat.le_of_not_lt unwritable⟩
      | float x => exact absurd (isWritable_number_iff.mpr rfl) unwritable
    | _ => exact absurd rfl unwritable
  · rintro ⟨n, rfl, long⟩ writable
    have short := Number.isWritable_int_iff.mp (isWritable_number_iff.mp writable)
    exact Nat.not_le_of_lt short long

end Token

/-! ## Faults -/

namespace ParseFault

/-- The fault is that of a token behind a complete expression. -/
def isBehind : ParseFault → Bool
  | .unexpected _ _ | .unwritable => true
  | _ => false

variable {next : Token}

theorem behind_of_isWritable (writable : next.IsWritable) (position : Nat) :
    behind position next = .unexpected position next.label := by
  rw [behind, writable.label?]

theorem behind_of_not_isWritable (unwritable : ¬ next.IsWritable) (position : Nat) :
    behind position next = .unwritable := by
  rw [behind, Option.not_isSome_iff_eq_none.mp unwritable]

/-- A token behind a complete expression is told by its label, as long as it has one. -/
theorem behind_cases (position : Nat) (next : Token) :
    (next.IsWritable ∧ behind position next = .unexpected position next.label) ∨
      (¬ next.IsWritable ∧ behind position next = .unwritable) := by
  by_cases writable : next.IsWritable
  · exact .inl ⟨writable, behind_of_isWritable writable position⟩
  · exact .inr ⟨writable, behind_of_not_isWritable writable position⟩

theorem isBehind_behind (position : Nat) (next : Token) :
    (behind position next).isBehind = true := by
  rcases behind_cases position next with ⟨-, same⟩ | ⟨-, same⟩ <;> rw [same] <;> rfl

end ParseFault

/-! ## Formulas -/

namespace Formula

variable {f : Formula}

/-- All labels are there if no whole number has too many digits. -/
theorem forall_isWritable_iff :
    (∀ t ∈ f, t.IsWritable) ↔
      ∀ n : Int, .number (.int n) ∈ f → n.natAbs < 10 ^ integerDigitLimit := by
  constructor
  · intro writable n member
    exact Number.isWritable_int_iff.mp (Token.isWritable_number_iff.mp (writable _ member))
  · intro short t member
    by_contra unwritable
    obtain ⟨n, rfl, long⟩ := Token.not_isWritable_iff.mp unwritable
    exact Nat.not_le_of_lt (short n member) long

theorem mapM_label? (writable : ∀ t ∈ f, t.IsWritable) :
    f.mapM Token.label? = some (f.map Token.label) := by
  induction f with
  | nil => rfl
  | cons t rest ih =>
    have first : t.label? = some t.label := (writable t List.mem_cons_self).label?
    have others := ih fun u member => writable u (List.mem_cons_of_mem t member)
    rw [List.mapM_cons, first, others]
    rfl

/-- The text of a formula is shown when all of its labels are. -/
theorem expression?_eq_some (writable : ∀ t ∈ f, t.IsWritable) :
    f.expression? = some f.expression := by
  rw [expression?, mapM_label? writable]
  rfl

end Formula

end FormulaEditor
