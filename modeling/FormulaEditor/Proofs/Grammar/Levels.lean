import FormulaEditor.Proofs.Grammar.Nesting

/-! # What uses up the room for nesting

The room is for expressions that are read inside one another.  Parentheses, signs and exponents make
such levels, but a right operand is read as an expression of its own whatever its operator is, so
those of sums and products use up room as well.  Between one level and the next there are at most
two of them, a term and a factor in it: up to 32 levels a row is always read, and with 33 it may be
refused.
-/

namespace FormulaEditor.Grammar

open FormulaEditor.Expr (ofTokens)

/-- What encloses an operand. -/
structure Surroundings where
  /-- parentheses, signs and exponents -/
  levels : Nat
  /-- right operands of sums and products -/
  operands : Nat
  deriving DecidableEq, Repr

namespace Surroundings

def inLevel (s : Surroundings) : Surroundings := { s with levels := s.levels + 1 }

def inOperand (s : Surroundings) : Surroundings := { s with operands := s.operands + 1 }

@[simp] theorem levels_inLevel (s : Surroundings) : s.inLevel.levels = s.levels + 1 := rfl
@[simp] theorem operands_inLevel (s : Surroundings) : s.inLevel.operands = s.operands := rfl
@[simp] theorem levels_inOperand (s : Surroundings) : s.inOperand.levels = s.levels := rfl
@[simp] theorem operands_inOperand (s : Surroundings) : s.inOperand.operands = s.operands + 1 := rfl

end Surroundings

/-- How many right operands there can be inside what is derived, besides two for each level. -/
def Category.slack : Category → Nat
  | .expression | .moreTerms => 2
  | .term | .moreFactors => 1
  | .signed | .power | .atom => 0

namespace Derivation

variable {c : Category}

/-- For each operand, from left to right, what encloses it. -/
def surroundings {c : Category} : Derivation c → List Surroundings
  | .number _ | .named _ _ _ => [⟨0, 0⟩]
  | .group inner => inner.surroundings.map .inLevel
  | .single base => base.surroundings
  | .raised base exponent => base.surroundings ++ exponent.surroundings.map .inLevel
  | .unsigned p => p.surroundings
  | .sign _ operand => operand.surroundings.map .inLevel
  | .term first more => first.surroundings ++ more.surroundings
  | .noFactor => []
  | .factor _ next more => next.surroundings.map .inOperand ++ more.surroundings
  | .expression first more => first.surroundings ++ more.surroundings
  | .noTerm => []
  | .summand _ next more => next.surroundings.map .inOperand ++ more.surroundings

/-- Levels and right operands are all that is counted. -/
theorem enclosures_eq (d : Derivation c) :
    d.enclosures = d.surroundings.map fun s => s.levels + s.operands := by
  induction d <;> simp_all [enclosures, surroundings, Nat.add_assoc, Nat.add_comm 1]

/-- A level is entered from an expression, and leaves no right operands but the two that can be
around it there. -/
theorem operands_le (d : Derivation c) :
    ∀ s ∈ d.surroundings, s.operands ≤ 2 * s.levels + c.slack := by
  -- A right operand takes one off the slack, and a level brings back all of it.
  induction d with
  | number | named | noFactor | noTerm => simp [surroundings]
  | single base ih | unsigned p ih => exact ih
  | group inner ih | sign symbol inner ih =>
    simp only [surroundings, List.forall_mem_map, Category.slack] at ih ⊢
    intro s member
    have := ih s member
    simp
    omega
  | raised base exponent ihBase ihExponent =>
    simp only [surroundings, List.forall_mem_append, List.forall_mem_map, Category.slack] at *
    refine ⟨ihBase, fun s member => ?_⟩
    have := ihExponent s member
    simp
    omega
  | term first more ihFirst ihMore | expression first more ihFirst ihMore =>
    simp only [surroundings, List.forall_mem_append, Category.slack] at *
    refine ⟨fun s member => ?_, ihMore⟩
    have := ihFirst s member
    omega
  | factor symbol next more ihNext ihMore | summand symbol next more ihNext ihMore =>
    simp only [surroundings, List.forall_mem_append, List.forall_mem_map, Category.slack] at *
    refine ⟨fun s member => ?_, ihMore⟩
    have := ihNext s member
    simp
    omega

end Derivation

/-- Whether a row of the grammar is read depends on the levels and right operands around each
operand together: up to 99 of them it is read, and beyond it is refused for its nesting.  Levels
alone decide up to 32, where the right operands never add up to too many. -/
theorem ofTokens_reads_levels (d : Derivation .expression) :
    (ofTokens d.tokens = .ok d.tree ↔ ∀ s ∈ d.surroundings, s.levels + s.operands ≤ 99) ∧
    ((∃ s ∈ d.surroundings, 99 < s.levels + s.operands) →
      ∃ rest, ofTokens d.tokens = .error ⟨.tooDeep, rest⟩) ∧
    ((∀ s ∈ d.surroundings, s.levels ≤ 32) → ofTokens d.tokens = .ok d.tree) := by
  have fits_iff : d.nesting < nestingLimit ↔ ∀ s ∈ d.surroundings, s.levels + s.operands ≤ 99 := by
    rw [nestingLimit, Nat.lt_succ_iff, d.nesting_le_iff, d.enclosures_eq, List.forall_mem_map]
  have reads : d.nesting < nestingLimit → ofTokens d.tokens = .ok d.tree := by
    intro fits
    rcases ofTokens_tokens d with ⟨read, -⟩ | ⟨-, deep⟩
    · exact read
    · omega
  have refuses : nestingLimit ≤ d.nesting →
      ∃ rest, ofTokens d.tokens = .error ⟨.tooDeep, rest⟩ := by
    intro deep
    rcases ofTokens_tokens d with ⟨-, fits⟩ | ⟨refused, -⟩
    · omega
    · exact refused
  refine ⟨?_, ?_, ?_⟩
  · rw [← fits_iff]
    refine ⟨fun read => Nat.not_le.mp fun deep => ?_, reads⟩
    obtain ⟨rest, refused⟩ := refuses deep
    rw [read] at refused
    cases refused
  · rintro ⟨s, member, beyond⟩
    refine refuses (Nat.not_lt.mp fun fits => ?_)
    have := fits_iff.mp fits s member
    omega
  · intro shallow
    refine reads (fits_iff.mpr fun s member => ?_)
    have := shallow s member
    have := d.operands_le s member
    simp only [Category.slack] at this
    omega

/-- The row `1 + 2 * ( 1 + 2 * ( ... 1 + 2 * 3 ... ) )`, with so many pairs of parentheses. -/
def nestedProducts : Nat → Derivation .expression
  | 0 => products (.number (.int 3))
  | pairs + 1 => products (.group (nestedProducts pairs))
where
  /-- The sum of one and twice the operand. -/
  products (last : Derivation .atom) : Derivation .expression :=
    .expression (.term (.unsigned (.single (.number (.int 1)))) .noFactor)
      (.summand .plus (.term (.unsigned (.single (.number (.int 2))))
        (.factor .times (.unsigned (.single last)) .noFactor)) .noTerm)

theorem tokens_nestedProducts (pairs : Nat) :
    (nestedProducts pairs).tokens =
      (List.replicate pairs [.number (.int 1), .operator .plus, .number (.int 2), .operator .times,
        .operator .openParen]).flatten ++
      [.number (.int 1), .operator .plus, .number (.int 2), .operator .times, .number (.int 3)] ++
      List.replicate pairs (.operator .closeParen) := by
  induction pairs with
  | zero => rfl
  | succ pairs ih =>
    rw [nestedProducts, List.replicate_succ, List.replicate_succ' (a := Token.operator .closeParen)]
    simp [nestedProducts.products, Derivation.tokens, SumSymbol.operator, FactorSymbol.operator, ih]

theorem levels_nestedProducts (pairs : Nat) :
    ∀ s ∈ (nestedProducts pairs).surroundings, s.levels ≤ pairs := by
  induction pairs with
  | zero => simp [nestedProducts, nestedProducts.products, Derivation.surroundings]
  | succ pairs ih =>
    simpa [nestedProducts, nestedProducts.products, Derivation.surroundings] using ih

theorem nesting_nestedProducts (pairs : Nat) :
    (nestedProducts pairs).nesting = 3 * pairs + 2 := by
  induction pairs with
  | zero => rfl
  | succ pairs ih =>
    simp [nestedProducts, nestedProducts.products, Derivation.nesting, ih]
    omega

/-- With 33 pairs of parentheses it is refused, although no operand is inside more than 33 levels:
the innermost one is inside 68 right operands besides. -/
theorem ofTokens_refuses_nestedProducts :
    (nestedProducts 33).tokens =
      (List.replicate 33 [.number (.int 1), .operator .plus, .number (.int 2), .operator .times,
        .operator .openParen]).flatten ++
      [.number (.int 1), .operator .plus, .number (.int 2), .operator .times, .number (.int 3)] ++
      List.replicate 33 (.operator .closeParen) ∧
    (∀ s ∈ (nestedProducts 33).surroundings, s.levels ≤ 33) ∧
    ∃ rest, ofTokens (nestedProducts 33).tokens = .error ⟨.tooDeep, rest⟩ := by
  refine ⟨tokens_nestedProducts 33, levels_nestedProducts 33, ?_⟩
  rcases ofTokens_tokens (nestedProducts 33) with ⟨-, fits⟩ | ⟨refused, -⟩
  · rw [nesting_nestedProducts] at fits
    exact absurd fits (by decide)
  · exact refused

end FormulaEditor.Grammar
