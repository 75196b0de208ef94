import FormulaEditor.Evaluation.Step
import FormulaEditor.Proofs.Formula.Labels

/-! # Reading with values in place of variables

A reader does not tell a number from a variable.  So it reads the same tree, up to the leaves, when
the values of variables stand in their places, and it finds the same faults at the same places.
-/

namespace FormulaEditor

variable {bindings : Bindings}

/-- A variable gives way to the number that it is bound to, or else to its own. -/
def Token.substitute (bindings : Bindings) : Token → Token
  | .variable id _ own => .number ((bindings.lookup id).getD own)
  | .operator op => .operator op
  | .number value => .number value
  | .text s => .text s

namespace Expr

/-- The tree with the numbers in place of the variables. -/
def substitute (bindings : Bindings) : Expr → Expr
  | .missing => .missing
  | .number value => .number value
  | .variable id _ own => .number ((bindings.lookup id).getD own)
  | .unary symbol operand => .unary symbol (operand.substitute bindings)
  | .binary symbol left right =>
    .binary symbol (left.substitute bindings) (right.substitute bindings)

/-! ## Readers -/

/-- The second reading is the first one with numbers in place of variables, in the tree and in what
is left, or both fail for the same fault. -/
inductive Follows (bindings : Bindings) {bound bound' : Nat} :
    Except ParseError (Reading bound) → Except ParseError (Reading bound') → Prop where
  | error (fault : ParseFault) (rest : List Token) :
    Follows bindings (.error ⟨fault, rest⟩) (.error ⟨fault, rest.map (Token.substitute bindings)⟩)
  | ok (tree : Expr) (rest : List Token) (shorter : rest.length < bound)
      (shorter' : (rest.map (Token.substitute bindings)).length < bound') :
    Follows bindings (.ok ⟨tree, rest, shorter⟩)
      (.ok ⟨tree.substitute bindings, rest.map (Token.substitute bindings), shorter'⟩)

/-- Two readings of which one follows the other fail both or go on from what they left. -/
theorem Follows.cases {bound bound' : Nat} {result : Except ParseError (Reading bound)}
    {result' : Except ParseError (Reading bound')} (follows : Follows bindings result result') :
    (∃ fault rest, result = .error ⟨fault, rest⟩ ∧
      result' = .error ⟨fault, rest.map (Token.substitute bindings)⟩) ∨
    ∃ tree rest shorter shorter', result = .ok ⟨tree, rest, shorter⟩ ∧
      result' = .ok ⟨tree.substitute bindings, rest.map (Token.substitute bindings), shorter'⟩ := by
  cases follows with
  | error fault rest => exact .inl ⟨fault, rest, rfl, rfl⟩
  | ok tree rest shorter shorter' => exact .inr ⟨tree, rest, shorter, shorter', rfl, rfl⟩

variable {inner : Reader}

end Expr

end FormulaEditor
