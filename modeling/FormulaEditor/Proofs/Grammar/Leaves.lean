import FormulaEditor.Proofs.Grammar.Acceptance

/-! # Leaves

The leaves of a tree that was read are the numbers and variables of the row, in their order.
-/

namespace FormulaEditor

/-- The leaf that a token is; operators and texts are none. -/
def Token.leaf? : Token → Option Expr
  | .number value => some (.number value)
  | .variable id name value => some (.variable id name value)
  | .operator _ | .text _ => none

namespace Expr

/-- The numbers and variables, from left to right. -/
def leaves : Expr → List Expr
  | .missing => []
  | .number value => [.number value]
  | .variable id name value => [.variable id name value]
  | .unary _ operand => operand.leaves
  | .binary _ left right => left.leaves ++ right.leaves

/-- The tree with another one in the place of a leaf, the leaves being counted from the left. -/
def replaceLeaf : Expr → Nat → Expr → Expr
  | .missing, _, _ => .missing
  | .number value, place, other => if place = 0 then other else .number value
  | .variable id name value, place, other => if place = 0 then other else .variable id name value
  | .unary symbol operand, place, other => .unary symbol (operand.replaceLeaf place other)
  | .binary symbol left right, place, other =>
    if place < left.leaves.length then .binary symbol (left.replaceLeaf place other) right
    else .binary symbol left (right.replaceLeaf (place - left.leaves.length) other)

variable {place : Nat} {symbol : String} {left : Expr}

theorem replaceLeaf_left (inLeft : place < left.leaves.length) (right other : Expr) :
    (binary symbol left right).replaceLeaf place other =
      .binary symbol (left.replaceLeaf place other) right := by
  rw [replaceLeaf, if_pos inLeft]

theorem replaceLeaf_right (right other : Expr) :
    (binary symbol left right).replaceLeaf (left.leaves.length + place) other =
      .binary symbol left (right.replaceLeaf place other) := by
  rw [replaceLeaf, if_neg (by omega), Nat.add_sub_cancel_left]

end Expr

namespace Grammar

/-- The operands in a row of tokens. -/
def operands (ts : List Token) : List Expr := ts.filterMap Token.leaf?

@[simp] theorem operands_append (ts ts' : List Token) :
    operands (ts ++ ts') = operands ts ++ operands ts' :=
  List.filterMap_append

@[simp] theorem operands_operator (op : Operator) (ts : List Token) :
    operands (.operator op :: ts) = operands ts := rfl

@[simp] theorem operands_number (value : Number) (ts : List Token) :
    operands (.number value :: ts) = .number value :: operands ts := rfl

@[simp] theorem operands_variable (id name : RawText) (value : Number) (ts : List Token) :
    operands (.variable id name value :: ts) = .variable id name value :: operands ts := rfl

@[simp] theorem operands_nil : operands [] = [] := rfl

theorem operands_cons {t : Token} {leaf : Expr} (isLeaf : t.leaf? = some leaf) (ts : List Token) :
    operands (t :: ts) = leaf :: operands ts :=
  List.filterMap_cons_some isLeaf

/-- The meaning is a tree with the leaves, or adds them to those of the tree in front. -/
def HasLeaves (leaves : List Expr) : (c : Category) → Derivation.Meaning c → Prop
  | .moreTerms, extend | .moreFactors, extend =>
    ∀ left : Expr, Expr.leaves (extend left) = left.leaves ++ leaves
  | .expression, tree | .term, tree | .signed, tree | .power, tree | .atom, tree =>
    Expr.leaves tree = leaves

theorem Derivation.hasLeaves {c : Category} (d : Derivation c) :
    HasLeaves (operands d.tokens) c d.tree := by
  induction d with
  | number value => rfl
  | named id name value => rfl
  | group inner ih => simpa [HasLeaves, tokens, tree] using ih
  | single base ih => exact ih
  | raised base exponent ihBase ihExponent =>
    simp_all [HasLeaves, tokens, tree, Expr.leaves]
  | unsigned p ih => exact ih
  | sign symbol operand ih => exact ih
  | term first more ihFirst ihMore | expression first more ihFirst ihMore =>
    simp_all [HasLeaves, tokens, tree]
  | noFactor | noTerm => simp [HasLeaves, tokens, tree]
  | factor symbol next more ihNext ihMore | summand symbol next more ihNext ihMore =>
    simp_all [HasLeaves, tokens, tree, Expr.leaves]

end Grammar

theorem Expr.leaves_of_ofTokens {ts : List Token} {tree : Expr} (read : ofTokens ts = .ok tree) :
    tree.leaves = Grammar.operands ts := by
  obtain ⟨d, rfl, -, rfl⟩ := Grammar.ofTokens_eq_ok_iff.mp read
  exact d.hasLeaves

theorem Expr.number_mem_of_ofTokens {ts : List Token} {tree : Expr} {n : Number}
    (read : ofTokens ts = .ok tree) (leaf : .number n ∈ tree.leaves) : .number n ∈ ts := by
  rw [leaves_of_ofTokens read, Grammar.operands, List.mem_filterMap] at leaf
  obtain ⟨t, member, isLeaf⟩ := leaf
  cases t <;> simp_all [Token.leaf?]

theorem Expr.variable_mem_of_ofTokens {ts : List Token} {tree : Expr} {id name : RawText}
    {own : Number} (read : ofTokens ts = .ok tree)
    (leaf : .variable id name own ∈ tree.leaves) : .variable id name own ∈ ts := by
  rw [leaves_of_ofTokens read, Grammar.operands, List.mem_filterMap] at leaf
  obtain ⟨t, member, isLeaf⟩ := leaf
  cases t <;> simp_all [Token.leaf?]

end FormulaEditor
