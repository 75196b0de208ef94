import FormulaEditor.Proofs.Evaluation.Rational
import FormulaEditor.Proofs.Evaluation.WellFormed
import FormulaEditor.Proofs.Grammar.Leaves
import FormulaEditor.Proofs.Grammar.Substitution

/-! # Variables are numbers by another name

A formula has the verdict that it has with the values of its variables in their place.  Only the
steps tell the difference: looking up a variable leaves a line of its own.
-/

namespace FormulaEditor

variable {bindings : Bindings} {env : ExactBindings}

/-! ## Steps -/

/-- The step looks up a variable. -/
def Step.isLookup : Step → Bool
  | .lookup _ _ => true
  | .negate _ _ | .apply _ _ _ _ => false

/-- The steps without those that look up a variable. -/
def Step.computed (steps : List Step) : List Step := steps.filter fun step => !step.isLookup

namespace Expr

/-- The variables have finite numbers of their own. -/
def VariablesFinite (e : Expr) : Prop :=
  ∀ id name own, .variable id name own ∈ e.leaves → own.isFinite = true

theorem VariablesFinite.operands {symbol : String} {left right : Expr}
    (finite : (binary symbol left right).VariablesFinite) :
    left.VariablesFinite ∧ right.VariablesFinite := by
  constructor
  · exact fun id name own leaf => finite id name own (List.mem_append_left _ leaf)
  · exact fun id name own leaf => finite id name own (List.mem_append_right _ leaf)

/-- A tree that was read from well-formed tokens has variables with finite numbers. -/
theorem variablesFinite_of_ofTokens {f : Formula} {tree : Expr} (valid : ∀ t ∈ f, t.WellFormed)
    (read : ofTokens f = .ok tree) : tree.VariablesFinite := by
  intro id name own leaf
  exact (valid _ (variable_mem_of_ofTokens read leaf)).2.2

end Expr

/-! ## Verdicts -/

namespace Formula

end Formula

end FormulaEditor
