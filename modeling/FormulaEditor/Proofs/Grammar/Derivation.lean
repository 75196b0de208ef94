import FormulaEditor.Expression.OfTokens

/-! # The grammar of formulas

Formulas are the rows of tokens that these rules derive:

* an expression is a term and any number of further terms, each behind a `+` or a `-`;
* a term is a signed operand and any number of further ones, each behind a `*` or a `/`;
* a signed operand is a power, or a sign in front of a signed operand;
* a power is an atom, or an atom, a `^` and a signed operand;
* an atom is a number, a variable, or an expression in parentheses.

A derivation is a tree of these rules.  It derives its tokens, it stands for an expression, and its
nesting is the greatest number of constructs that enclose one of its operands.
-/

namespace FormulaEditor.Grammar

/-! ## Derivations -/

/-- The symbols that join terms, which are also the signs. -/
inductive SumSymbol where
  | plus
  | minus
  deriving DecidableEq, Repr

/-- The symbols that join factors. -/
inductive FactorSymbol where
  | times
  | divide
  deriving DecidableEq, Repr

/-- The operator that a symbol is. -/
def SumSymbol.operator : SumSymbol → Operator
  | .plus => .plus
  | .minus => .minus

/-- The operator that a symbol is. -/
def FactorSymbol.operator : FactorSymbol → Operator
  | .times => .times
  | .divide => .divide

theorem SumSymbol.operator_inj {s s' : SumSymbol} (same : s.operator = s'.operator) : s = s' := by
  cases s <;> cases s' <;> first | rfl | cases same

theorem FactorSymbol.operator_inj {s s' : FactorSymbol} (same : s.operator = s'.operator) :
    s = s' := by
  cases s <;> cases s' <;> first | rfl | cases same

/-- What is derived. -/
inductive Category where
  | expression
  /-- the further terms of an expression -/
  | moreTerms
  | term
  /-- the further factors of a term -/
  | moreFactors
  | signed
  | power
  | atom
  deriving DecidableEq, Repr

/-- A derivation, by the rule at its root. -/
inductive Derivation : Category → Type where
  | number (value : Number) : Derivation .atom
  | named (id name : RawText) (value : Number) : Derivation .atom
  | group (inner : Derivation .expression) : Derivation .atom
  | single (base : Derivation .atom) : Derivation .power
  | raised (base : Derivation .atom) (exponent : Derivation .signed) : Derivation .power
  | unsigned (p : Derivation .power) : Derivation .signed
  | sign (symbol : SumSymbol) (operand : Derivation .signed) : Derivation .signed
  | term (first : Derivation .signed) (more : Derivation .moreFactors) : Derivation .term
  | noFactor : Derivation .moreFactors
  | factor (symbol : FactorSymbol) (next : Derivation .signed) (more : Derivation .moreFactors) :
      Derivation .moreFactors
  | expression (first : Derivation .term) (more : Derivation .moreTerms) : Derivation .expression
  | noTerm : Derivation .moreTerms
  | summand (symbol : SumSymbol) (next : Derivation .term) (more : Derivation .moreTerms) :
      Derivation .moreTerms

namespace Derivation

variable {c : Category}

/-- The tokens that are derived. -/
def tokens {c : Category} : Derivation c → List Token
  | .number value => [.number value]
  | .named id name value => [.variable id name value]
  | .group inner => .operator .openParen :: (inner.tokens ++ [.operator .closeParen])
  | .single base => base.tokens
  | .raised base exponent => base.tokens ++ .operator .power :: exponent.tokens
  | .unsigned p => p.tokens
  | .sign symbol operand => .operator symbol.operator :: operand.tokens
  | .term first more => first.tokens ++ more.tokens
  | .noFactor => []
  | .factor symbol next more => .operator symbol.operator :: (next.tokens ++ more.tokens)
  | .expression first more => first.tokens ++ more.tokens
  | .noTerm => []
  | .summand symbol next more => .operator symbol.operator :: (next.tokens ++ more.tokens)

/-- What a derivation stands for: an expression, or for further terms and factors the expression
that they make of the one in front of them. -/
abbrev Meaning : Category → Type
  | .moreTerms | .moreFactors => Expr → Expr
  | _ => Expr

/-- The meaning of a derivation.  Further terms and factors extend the expression in front of them
one by one, so that sums and products group to the left. -/
def tree {c : Category} : Derivation c → Meaning c
  | .number value => Expr.number value
  | .named id name value => Expr.variable id name value
  | .group inner => inner.tree
  | .single base => base.tree
  | .raised base exponent => Expr.binary Operator.power.symbol base.tree exponent.tree
  | .unsigned p => p.tree
  | .sign symbol operand => Expr.unary symbol.operator.symbol operand.tree
  | .term first more => more.tree first.tree
  | .noFactor => fun left => left
  | .factor symbol next more => fun left =>
    more.tree (.binary symbol.operator.symbol left next.tree)
  | .expression first more => more.tree first.tree
  | .noTerm => fun left => left
  | .summand symbol next more => fun left =>
    more.tree (.binary symbol.operator.symbol left next.tree)

/-- For each operand, from left to right, the number of constructs that enclose it. Parentheses
enclose what is between them, a sign encloses its operand, and a binary operator encloses its right
operand. -/
def enclosures {c : Category} : Derivation c → List Nat
  | .number _ | .named _ _ _ => [0]
  | .group inner => inner.enclosures.map (· + 1)
  | .single base => base.enclosures
  | .raised base exponent => base.enclosures ++ exponent.enclosures.map (· + 1)
  | .unsigned p => p.enclosures
  | .sign _ operand => operand.enclosures.map (· + 1)
  | .term first more => first.enclosures ++ more.enclosures
  | .noFactor => []
  | .factor _ next more => next.enclosures.map (· + 1) ++ more.enclosures
  | .expression first more => first.enclosures ++ more.enclosures
  | .noTerm => []
  | .summand _ next more => next.enclosures.map (· + 1) ++ more.enclosures

/-- The greatest of these numbers; where there is no operand it is zero. -/
def nesting {c : Category} : Derivation c → Nat
  | .number _ | .named _ _ _ => 0
  | .group inner => inner.nesting + 1
  | .single base => base.nesting
  | .raised base exponent => max base.nesting (exponent.nesting + 1)
  | .unsigned p => p.nesting
  | .sign _ operand => operand.nesting + 1
  | .term first more => max first.nesting more.nesting
  | .noFactor => 0
  | .factor _ next more => max (next.nesting + 1) more.nesting
  | .expression first more => max first.nesting more.nesting
  | .noTerm => 0
  | .summand _ next more => max (next.nesting + 1) more.nesting

/-- No operand is enclosed by more constructs than the nesting tells. -/
theorem le_nesting (d : Derivation c) : ∀ n ∈ d.enclosures, n ≤ d.nesting := by
  induction d with
  | number | named | noFactor | noTerm => simp [enclosures, nesting]
  | group inner ih | sign _ inner ih => simpa [enclosures, nesting] using ih
  | single base ih | unsigned base ih => exact ih
  | raised base exponent ih ih' | term base exponent ih ih' | expression base exponent ih ih' =>
    simp only [enclosures, nesting, List.mem_append, List.mem_map]
    grind
  | factor _ next more ih ih' | summand _ next more ih ih' =>
    simp only [enclosures, nesting, List.mem_append, List.mem_map]
    grind

/-- Some operand is enclosed by as many constructs as the nesting tells, where there is one. -/
theorem nesting_mem (d : Derivation c) :
    d.nesting ∈ d.enclosures ∨ d.nesting = 0 ∧ (c = .moreTerms ∨ c = .moreFactors) := by
  induction d with
  | number | named | noFactor | noTerm => simp [enclosures, nesting]
  | group inner ih | sign _ inner ih => simpa [enclosures, nesting] using ih
  | single base ih | unsigned base ih => simpa [enclosures, nesting] using ih
  | raised base exponent ih ih' | term base exponent ih ih' | expression base exponent ih ih' =>
    simp only [enclosures, nesting, List.mem_append, List.mem_map]
    grind
  | factor _ next more ih ih' | summand _ next more ih ih' =>
    simp only [enclosures, nesting, List.mem_append, List.mem_map]
    grind

/-- The operands of an expression are enclosed by at most so many constructs each. -/
theorem nesting_le_iff (d : Derivation .expression) (n : Nat) :
    d.nesting ≤ n ↔ ∀ k ∈ d.enclosures, k ≤ n := by
  constructor
  · exact fun fits k member => Nat.le_trans (d.le_nesting k member) fits
  · intro fits
    rcases d.nesting_mem with member | ⟨_, chain | chain⟩
    · exact fits _ member
    · cases chain
    · cases chain

end Derivation

end FormulaEditor.Grammar
