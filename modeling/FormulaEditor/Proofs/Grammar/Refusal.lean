import FormulaEditor.Evaluation.Error
import FormulaEditor.Proofs.Grammar.FirstFault

/-! # Rows that are refused

Reading accepts exactly the rows of the grammar, and every other row is refused with a reason, except
in one case.  A token behind a complete expression is told by its label; where it is a number of too
many digits, there is none, and with the label the reason is missing.
-/

namespace FormulaEditor.Grammar

open FormulaEditor.Expr (ofTokens)

variable {c : Category} {ts : List Token}

/-! ## Rows without a reason -/

/-- A number of too many digits stands behind a complete expression. -/
def UnwritableBehind (ts : List Token) : Prop :=
  ∃ taken n rest tree, ts = taken ++ .number (.int n) :: rest ∧ ofTokens taken = .ok tree ∧
    10 ^ integerDigitLimit ≤ n.natAbs

/-- Just these rows leave the reader without a label. -/
theorem unwritableBehind_iff :
    UnwritableBehind ts ↔ ∃ e, ofTokens ts = .error e ∧ e.fault = .unwritable := by
  constructor
  · rintro ⟨taken, n, rest, tree, rfl, complete, long⟩
    have ends : Stops 0 [.number (.int n)] := trivial
    have refused := ofTokens_of_complete rest complete ends
    have unwritable := Token.not_isWritable_iff.mpr ⟨n, rfl, long⟩
    exact ⟨_, refused, ParseFault.behind_of_not_isWritable unwritable _⟩
  · rintro ⟨e, refused, fault⟩
    have told : e.fault.isBehind = true := by rw [fault]; rfl
    obtain ⟨taken, next, behind, tree, rfl, complete, -, rfl⟩ :=
      exists_complete_of_isBehind refused told
    rcases ParseFault.behind_cases taken.length next with ⟨-, same⟩ | ⟨unwritable, -⟩
    · rw [same] at fault
      cases fault
    · obtain ⟨n, rfl, long⟩ := Token.not_isWritable_iff.mp unwritable
      exact ⟨taken, n, behind, tree, rfl, complete, long⟩

/-- There is no such row when all numbers can be written. -/
theorem not_unwritableBehind (writable : ∀ t ∈ ts, t.IsWritable) : ¬ UnwritableBehind ts := by
  rintro ⟨taken, n, rest, tree, rfl, -, long⟩
  exact Token.not_isWritable_iff.mpr ⟨n, rfl, long⟩ (writable _ (by simp))

/-- Every fault that has its label is a reason to tell. -/
theorem family_of_fault {fault : ParseFault} (told : fault ≠ .unwritable) :
    (EvalError.malformed fault).family = .evaluation := by
  cases fault <;> first | rfl | exact absurd rfl told

/-! ## The grammar -/

end FormulaEditor.Grammar
