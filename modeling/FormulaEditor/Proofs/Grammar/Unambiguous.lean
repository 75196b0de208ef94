import FormulaEditor.Proofs.Grammar.Derivation
import FormulaEditor.Proofs.Grammar.Reading

/-! # The grammar is unambiguous

No row of tokens has two derivations. The statement that goes through by induction is about a
derivation with tokens behind it that do not continue what is derived.
-/

namespace FormulaEditor.Grammar.Derivation

variable {c : Category}

/-- A token with which an operand can begin. -/
def Begins : Token → Prop
  | .number _ | .variable _ _ _ => True
  | .operator op => op = .openParen ∨ op = .plus ∨ op = .minus
  | .text _ => False

/-- Whatever is derived begins like an operand, unless it is the further terms or factors. -/
theorem exists_begins (d : Derivation c) (isTerms : c ≠ .moreTerms) (isFactors : c ≠ .moreFactors) :
    ∃ t more, d.tokens = t :: more ∧ Begins t := by
  induction d with
  | number value => exact ⟨_, _, rfl, trivial⟩
  | named id name value => exact ⟨_, _, rfl, trivial⟩
  | group inner => exact ⟨_, _, rfl, .inl rfl⟩
  | single base ih => exact ih nofun nofun
  | raised base exponent ih =>
    obtain ⟨t, more, tokens, begins⟩ := ih nofun nofun
    exact ⟨t, _, by rw [Derivation.tokens, tokens, List.cons_append], begins⟩
  | unsigned p ih => exact ih nofun nofun
  | sign symbol operand => cases symbol <;> exact ⟨_, _, rfl, by simp [Begins, SumSymbol.operator]⟩
  | term first more ih =>
    obtain ⟨t, _, tokens, begins⟩ := ih nofun nofun
    exact ⟨t, _, by rw [Derivation.tokens, tokens, List.cons_append], begins⟩
  | expression first more ih =>
    obtain ⟨t, _, tokens, begins⟩ := ih nofun nofun
    exact ⟨t, _, by rw [Derivation.tokens, tokens, List.cons_append], begins⟩
  | noFactor | factor => exact absurd rfl isFactors
  | noTerm | summand => exact absurd rfl isTerms

/-- A power does not begin with a sign. -/
theorem tokens_power_ne_sign (p : Derivation .power) (symbol : SumSymbol)
    (rest rest' : List Token) :
    p.tokens ++ rest ≠ .operator symbol.operator :: rest' := by
  cases p with
  | single base => cases base <;> cases symbol <;> simp [tokens, SumSymbol.operator]
  | raised base exponent => cases base <;> cases symbol <;> simp [tokens, SumSymbol.operator]

/-! ## What may stand behind a derivation -/

theorem binding?_sum (symbol : SumSymbol) : Expr.binding? symbol.operator = some ⟨10, 10⟩ := by
  cases symbol <;> rfl

theorem binding?_factor (symbol : FactorSymbol) :
    Expr.binding? symbol.operator = some ⟨20, 20⟩ := by
  cases symbol <;> rfl

/-- The tokens do not continue what is derived. -/
def Ends : Category → List Token → Prop
  | .expression, rest | .moreTerms, rest => Stops 0 rest
  | .term, rest | .moreFactors, rest => Stops 10 rest
  | .signed, rest | .power, rest => Stops 20 rest
  | .atom, _ => True

theorem stops_moreFactors_append (more : Derivation .moreFactors) {rest : List Token}
    (stops : Stops 20 rest) : Stops 20 (more.tokens ++ rest) := by
  cases more with
  | noFactor => exact stops
  | factor symbol next more =>
    intro b bound
    rw [binding?_factor] at bound
    cases bound
    exact Nat.le_refl 20

theorem stops_moreTerms_append (more : Derivation .moreTerms) {rest : List Token}
    (stops : Stops 10 rest) : Stops 10 (more.tokens ++ rest) := by
  cases more with
  | noTerm => exact stops
  | summand symbol next more =>
    intro b bound
    rw [binding?_sum] at bound
    cases bound
    exact Nat.le_refl 10

theorem ends_signed_append (more : Derivation .moreFactors) {rest : List Token}
    (ends : Ends .moreFactors rest) : Ends .signed (more.tokens ++ rest) :=
  stops_moreFactors_append more (Stops.mono ends (by decide))

theorem ends_term_append (more : Derivation .moreTerms) {rest : List Token}
    (ends : Ends .moreTerms rest) : Ends .term (more.tokens ++ rest) :=
  stops_moreTerms_append more (Stops.mono ends (by decide))

theorem not_ends_power (rest : List Token) : ¬ Ends .power (.operator .power :: rest) :=
  fun ends => absurd (ends ⟨30, 29⟩ rfl) (by decide)

theorem not_ends_moreFactors (symbol : FactorSymbol) (rest : List Token) :
    ¬ Ends .moreFactors (.operator symbol.operator :: rest) :=
  fun ends => absurd (ends ⟨20, 20⟩ (binding?_factor symbol)) (by decide)

theorem not_ends_moreTerms (symbol : SumSymbol) (rest : List Token) :
    ¬ Ends .moreTerms (.operator symbol.operator :: rest) :=
  fun ends => absurd (ends ⟨10, 10⟩ (binding?_sum symbol)) (by decide)

/-! ## Uniqueness -/

/-- A derivation is known by its tokens, even with further tokens behind it. -/
theorem eq_of_tokens_append (d d' : Derivation c) {rest rest' : List Token}
    (same : d.tokens ++ rest = d'.tokens ++ rest') (ends : Ends c rest) (ends' : Ends c rest') :
    d = d' ∧ rest = rest' := by
  -- Both tails are arbitrary: a part of a derivation ends where the next part begins.
  induction d generalizing rest rest' with
  | number value =>
    cases d' <;> simp [tokens] at same
    exact ⟨by rw [same.1], same.2⟩
  | named id name value =>
    cases d' <;> simp [tokens] at same
    exact ⟨by rw [same.1.1, same.1.2.1, same.1.2.2], same.2⟩
  | group inner ih =>
    cases d' with
    | group inner' =>
      simp only [tokens, List.cons_append, List.append_assoc, List.cons.injEq, true_and] at same
      obtain ⟨rfl, behind⟩ := ih inner' same (by rintro b ⟨⟩) (by rintro b ⟨⟩)
      exact ⟨rfl, by simpa using behind⟩
    | _ => simp [tokens] at same
  | single base ih =>
    cases d' with
    | single base' =>
      obtain ⟨rfl, rfl⟩ := ih base' same trivial trivial
      exact ⟨rfl, rfl⟩
    | raised base' exponent' =>
      -- The bases are the same, so a power goes on where this one ends.
      simp only [tokens, List.append_assoc] at same
      obtain ⟨_, rfl⟩ := ih base' same trivial trivial
      exact absurd ends (not_ends_power _)
  | raised base exponent ihBase ihExponent =>
    cases d' with
    | single base' =>
      simp only [tokens, List.append_assoc] at same
      obtain ⟨_, rfl⟩ := ihBase base' same trivial trivial
      exact absurd ends' (not_ends_power _)
    | raised base' exponent' =>
      simp only [tokens, List.append_assoc] at same
      obtain ⟨rfl, behind⟩ := ihBase base' same trivial trivial
      simp only [List.cons_append, List.cons.injEq, true_and] at behind
      obtain ⟨rfl, rfl⟩ := ihExponent exponent' behind ends ends'
      exact ⟨rfl, rfl⟩
  | unsigned p ih =>
    cases d' with
    | unsigned p' =>
      obtain ⟨rfl, rfl⟩ := ih p' same ends ends'
      exact ⟨rfl, rfl⟩
    | sign symbol' operand' => exact absurd same (tokens_power_ne_sign p symbol' _ _)
  | sign symbol operand ih =>
    cases d' with
    | unsigned p' => exact absurd same.symm (tokens_power_ne_sign p' symbol _ _)
    | sign symbol' operand' =>
      simp only [tokens, List.cons_append, List.cons.injEq, Token.operator.injEq] at same
      obtain rfl := SumSymbol.operator_inj same.1
      obtain ⟨rfl, rfl⟩ := ih operand' same.2 ends ends'
      exact ⟨rfl, rfl⟩
  | term first more ihFirst ihMore =>
    cases d' with
    | term first' more' =>
      simp only [tokens, List.append_assoc] at same
      obtain ⟨rfl, behind⟩ := ihFirst first' same (ends_signed_append more ends)
        (ends_signed_append more' ends')
      obtain ⟨rfl, rfl⟩ := ihMore more' behind ends ends'
      exact ⟨rfl, rfl⟩
  | noFactor =>
    cases d' with
    | noFactor => exact ⟨rfl, same⟩
    | factor symbol' next' more' =>
      -- One derivation ends where the other has a further factor.
      obtain rfl : rest = _ := same
      exact absurd ends (not_ends_moreFactors symbol' _)
  | factor symbol next more ihNext ihMore =>
    cases d' with
    | noFactor =>
      obtain rfl : _ = rest' := same
      exact absurd ends' (not_ends_moreFactors symbol _)
    | factor symbol' next' more' =>
      simp only [tokens, List.cons_append, List.append_assoc, List.cons.injEq,
        Token.operator.injEq] at same
      obtain rfl := FactorSymbol.operator_inj same.1
      obtain ⟨rfl, behind⟩ := ihNext next' same.2 (ends_signed_append more ends)
        (ends_signed_append more' ends')
      obtain ⟨rfl, rfl⟩ := ihMore more' behind ends ends'
      exact ⟨rfl, rfl⟩
  | expression first more ihFirst ihMore =>
    cases d' with
    | expression first' more' =>
      simp only [tokens, List.append_assoc] at same
      obtain ⟨rfl, behind⟩ := ihFirst first' same (ends_term_append more ends)
        (ends_term_append more' ends')
      obtain ⟨rfl, rfl⟩ := ihMore more' behind ends ends'
      exact ⟨rfl, rfl⟩
  | noTerm =>
    cases d' with
    | noTerm => exact ⟨rfl, same⟩
    | summand symbol' next' more' =>
      obtain rfl : rest = _ := same
      exact absurd ends (not_ends_moreTerms symbol' _)
  | summand symbol next more ihNext ihMore =>
    cases d' with
    | noTerm =>
      obtain rfl : _ = rest' := same
      exact absurd ends' (not_ends_moreTerms symbol _)
    | summand symbol' next' more' =>
      simp only [tokens, List.cons_append, List.append_assoc, List.cons.injEq,
        Token.operator.injEq] at same
      obtain rfl := SumSymbol.operator_inj same.1
      obtain ⟨rfl, behind⟩ := ihNext next' same.2 (ends_term_append more ends)
        (ends_term_append more' ends')
      obtain ⟨rfl, rfl⟩ := ihMore more' behind ends ends'
      exact ⟨rfl, rfl⟩

/-- An expression is known by its tokens. -/
theorem eq_of_tokens {d d' : Derivation .expression} (same : d.tokens = d'.tokens) : d = d' := by
  have same : d.tokens ++ [] = d'.tokens ++ [] := by rw [same]
  exact (eq_of_tokens_append d d' same trivial trivial).1

end FormulaEditor.Grammar.Derivation
