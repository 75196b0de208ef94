import FormulaEditor.Evaluation.Error
import FormulaEditor.Proofs.Grammar.Unambiguous

/-! # Reading accepts the grammar

Reading a row of tokens gives an expression exactly if the grammar derives the row and no operand is
nested too deeply; the expression is then that of the derivation.

The readers know three kinds of floors: below 10 they read an expression, below 20 a term, and below
30 a signed operand. In one direction a derivation is followed from left to right, and reading its
tokens comes down to climbing on from its tree. In the other direction what a reader takes is cut
into an operand with its power, further factors, and further terms.
-/

namespace FormulaEditor.Grammar

open FormulaEditor.Grammar.Derivation (binding?_sum binding?_factor stops_moreFactors_append
  stops_moreTerms_append)
open FormulaEditor.Expr (Reader operand climb read ofTokens)

variable {c : Category} {floor room : Nat} {inner : Reader} {ts rest final : List Token}
  {left tree : Expr}

/-! ## What is derived is read -/

/-- Above floors below `high`, reading takes the tokens and goes on climbing from the tree, provided
that what stands behind them binds no tighter than `stop`. -/
def ReadsOn (high stop nesting : Nat) (tokens : List Token) (tree : Expr) : Prop :=
  ∀ {room floor rest whole final}, nesting ≤ room → floor < high → Stops stop rest →
    Reads (climb (read room) floor tree rest) whole final →
    Reads (read (room + 1) floor (tokens ++ rest)) whole final

/-- Above floors below `high`, climbing takes the tokens and goes on from the extended tree,
provided that what stands behind them binds no tighter than `stop`. -/
def ClimbsOn (high stop nesting : Nat) (tokens : List Token) (extend : Expr → Expr) : Prop :=
  ∀ {room floor left rest whole final}, nesting ≤ room → floor < high → Stops stop rest →
    Reads (climb (read room) floor (extend left) rest) whole final →
    Reads (climb (read room) floor left (tokens ++ rest)) whole final

/-- What the readers do with the tokens of a derivation. -/
def IsRead : {c : Category} → Derivation c → Prop
  | .atom, d => ∀ {room rest}, d.nesting ≤ room →
      Reads (operand (read room) (d.tokens ++ rest)) d.tree rest
  | .power, d | .signed, d => ReadsOn 30 20 d.nesting d.tokens d.tree
  | .term, d => ReadsOn 20 20 d.nesting d.tokens d.tree
  | .moreFactors, d => ClimbsOn 20 20 d.nesting d.tokens d.tree
  | .expression, d => ReadsOn 10 10 d.nesting d.tokens d.tree
  | .moreTerms, d => ClimbsOn 10 10 d.nesting d.tokens d.tree

/-- What binds no tighter than the floor is left behind. -/
theorem ReadsOn.reads {high stop nesting : Nat} {tokens : List Token}
    (readsOn : ReadsOn high stop nesting tokens tree) (fits : nesting < room)
    (below : floor < high) (ends : Stops stop rest) (stops : Stops floor rest) :
    Reads (read room floor (tokens ++ rest)) tree rest := by
  cases room with
  | zero => omega
  | succ room =>
    exact readsOn (Nat.le_of_lt_succ fits) below ends
      ((reads_climb_of_stops stops).mpr ⟨rfl, rfl⟩)

theorem isRead (d : Derivation c) : IsRead d := by
  induction d with
  | number value => exact fun _ => reads_operand.mpr (.inl ⟨value, rfl, rfl⟩)
  | named id name value =>
    exact fun _ => reads_operand.mpr (.inr (.inl ⟨id, name, value, rfl, rfl⟩))
  | group inner ih =>
    intro room rest fits
    obtain ⟨t, more, tokens, begins⟩ := inner.exists_begins nofun nofun
    -- What is between the parentheses is not empty, so the closing one does not come first.
    have filled : (inner.tokens ++ .operator .closeParen :: rest).head? ≠
        some (.operator .closeParen) := by
      rw [tokens]
      rintro ⟨rfl⟩
      simp [Derivation.Begins] at begins
    have reads : Reads (read room 0 (inner.tokens ++ .operator .closeParen :: rest)) inner.tree
        (.operator .closeParen :: rest) :=
      ReadsOn.reads ih fits (by decide) stops_closeParen stops_closeParen
    rw [Derivation.tokens, List.cons_append, List.append_assoc]
    exact (reads_operand_group filled).mpr reads
  | single base ih =>
    intro room floor rest whole final fits _ _ climbs
    exact reads_read.mpr ⟨base.tree, rest, ih fits, climbs⟩
  | raised base exponent ihBase ihExponent =>
    intro room floor rest whole final fits high stops climbs
    have fits := Nat.max_le.mp fits
    rw [Derivation.tokens, List.append_assoc]
    refine reads_read.mpr ⟨base.tree, _, ihBase fits.1, ?_⟩
    refine (reads_climb_operator rfl high).mpr ⟨exponent.tree, rest, ?_, climbs⟩
    exact ReadsOn.reads ihExponent fits.2 (by decide) stops (stops.mono (by decide))
  | unsigned p ih => exact ih
  | sign symbol operand ih =>
    intro room floor rest whole final fits high stops climbs
    refine reads_read.mpr ⟨_, rest, ?_, climbs⟩
    refine reads_operand.mpr (.inr (.inr (.inr
      ⟨symbol.operator, operand.tokens ++ rest, operand.tree, ?_, rfl, ?_, rfl⟩)))
    · cases symbol <;> simp [SumSymbol.operator]
    · exact ReadsOn.reads ih fits (by decide) stops (stops.mono (by decide))
  | term first more ihFirst ihMore =>
    intro room floor rest whole final fits high stops climbs
    have fits := Nat.max_le.mp fits
    rw [Derivation.tokens, List.append_assoc]
    exact ihFirst fits.1 (by omega) (stops_moreFactors_append more stops)
      (ihMore fits.2 high stops climbs)
  | noFactor => exact fun _ _ _ climbs => climbs
  | factor symbol next more ihNext ihMore =>
    intro room floor left rest whole final fits high stops climbs
    have fits := Nat.max_le.mp fits
    rw [Derivation.tokens, List.cons_append, List.append_assoc]
    refine (reads_climb_operator (binding?_factor symbol) high).mpr
      ⟨next.tree, more.tokens ++ rest, ?_, ?_⟩
    · have stops := stops_moreFactors_append more stops
      exact ReadsOn.reads ihNext fits.1 (by decide) stops stops
    · exact ihMore fits.2 high stops climbs
  | expression first more ihFirst ihMore =>
    intro room floor rest whole final fits high stops climbs
    have fits := Nat.max_le.mp fits
    rw [Derivation.tokens, List.append_assoc]
    exact ihFirst fits.1 (by omega) ((stops_moreTerms_append more stops).mono (by decide))
      (ihMore fits.2 high stops climbs)
  | noTerm => exact fun _ _ _ climbs => climbs
  | summand symbol next more ihNext ihMore =>
    intro room floor left rest whole final fits high stops climbs
    have fits := Nat.max_le.mp fits
    rw [Derivation.tokens, List.cons_append, List.append_assoc]
    refine (reads_climb_operator (binding?_sum symbol) high).mpr
      ⟨next.tree, more.tokens ++ rest, ?_, ?_⟩
    · have stops := stops_moreTerms_append more stops
      exact ReadsOn.reads ihNext fits.1 (by decide) (stops.mono (by decide)) stops
    · exact ihMore fits.2 high stops climbs

/-! ## What is read is derived -/

/-- The tokens are those of a derivation with the given meaning and those left behind it, and the
derivation is nested less than there is room. -/
def Taken (c : Category) (room : Nat) (ts : List Token) (meaning : Derivation.Meaning c)
    (rest : List Token) : Prop :=
  ∃ d : Derivation c, ts = d.tokens ++ rest ∧ d.tree = meaning ∧ d.nesting < room

/-- What a reader reads is derived, and it stops only where its floor says. -/
structure Sound (inner : Reader) (room : Nat) : Prop where
  stops : ∀ {floor ts tree rest}, floor < 30 → Reads (inner floor ts) tree rest → Stops floor rest
  signed : ∀ {floor ts tree rest}, 20 ≤ floor → floor < 30 → Reads (inner floor ts) tree rest →
    Taken .signed room ts tree rest
  term : ∀ {floor ts tree rest}, 10 ≤ floor → floor < 20 → Reads (inner floor ts) tree rest →
    Taken .term room ts tree rest
  expression : ∀ {floor ts tree rest}, floor < 10 → Reads (inner floor ts) tree rest →
    Taken .expression room ts tree rest

theorem stops_or_power (ts : List Token) :
    Stops 20 ts ∨ ∃ more, ts = .operator .power :: more := by
  match ts with
  | .operator op :: more =>
    cases op with
    | power => exact .inr ⟨more, rfl⟩
    | plus | minus | times | divide => exact .inl (by rintro b ⟨rfl⟩; decide)
    | openParen | closeParen => exact .inl nofun
  | [] | .number _ :: _ | .variable _ _ _ :: _ | .text _ :: _ => exact .inl trivial

theorem Stops.stops_or_factor (stops : Stops 20 ts) :
    Stops 10 ts ∨ ∃ (symbol : FactorSymbol) (more : List Token),
      ts = .operator symbol.operator :: more := by
  match ts, stops with
  | .operator op :: more, stops =>
    cases op with
    | power => exact absurd (stops _ rfl) (by decide)
    | times => exact .inr ⟨.times, more, rfl⟩
    | divide => exact .inr ⟨.divide, more, rfl⟩
    | plus | minus => exact .inl (by rintro b ⟨rfl⟩; decide)
    | openParen | closeParen => exact .inl nofun
  | [], _ | .number _ :: _, _ | .variable _ _ _ :: _, _ | .text _ :: _, _ => exact .inl trivial

theorem Stops.stops_or_sum (stops : Stops 10 ts) :
    Stops 0 ts ∨ ∃ (symbol : SumSymbol) (more : List Token),
      ts = .operator symbol.operator :: more := by
  match ts, stops with
  | .operator op :: more, stops =>
    cases op with
    | power | times | divide => exact absurd (stops _ rfl) (by decide)
    | plus => exact .inr ⟨.plus, more, rfl⟩
    | minus => exact .inr ⟨.minus, more, rfl⟩
    | openParen | closeParen => exact .inl nofun
  | [], _ | .number _ :: _, _ | .variable _ _ _ :: _, _ | .text _ :: _, _ => exact .inl trivial

theorem Reads.length_lt {bound : Nat} {result : Except ParseError (Expr.Reading bound)}
    (reads : Reads result tree rest) : rest.length < bound :=
  reads.1

/-- An operand is an atom, or a sign with its operand; a power does not go on behind the latter. -/
theorem Sound.operand (sound : Sound inner room) (reads : Reads (operand inner ts) tree rest) :
    Taken .atom (room + 1) ts tree rest ∨
      Taken .signed (room + 1) ts tree rest ∧ Stops 20 rest := by
  rcases reads_operand.mp reads with ⟨value, rfl, rfl⟩ | ⟨id, name, value, rfl, rfl⟩ |
    ⟨body, rfl, _, inside⟩ | ⟨op, body, within, isSign, rfl, inside, rfl⟩
  · exact .inl ⟨.number value, rfl, rfl, Nat.zero_lt_succ _⟩
  · exact .inl ⟨.named id name value, rfl, rfl, Nat.zero_lt_succ _⟩
  · obtain ⟨d, rfl, rfl, fits⟩ := sound.expression (by decide) inside
    refine .inl ⟨.group d, ?_, rfl, Nat.succ_lt_succ fits⟩
    rw [Derivation.tokens, List.cons_append, List.append_assoc]
    rfl
  · obtain ⟨symbol, rfl⟩ : ∃ symbol : SumSymbol, op = symbol.operator := by
      rcases isSign with rfl | rfl
      · exact ⟨.minus, rfl⟩
      · exact ⟨.plus, rfl⟩
    have stops := sound.stops (by decide) inside
    obtain ⟨d, rfl, rfl, fits⟩ := sound.signed (by decide) (by decide) inside
    exact .inr ⟨⟨.sign symbol d, rfl, rfl, Nat.succ_lt_succ fits⟩,
      stops.of_lt_power (by decide)⟩

/-- First a signed operand is taken. -/
theorem Sound.takes_signed (sound : Sound inner room) {first : Expr} {behind : List Token}
    (below : floor < 30) (starts : Reads (Expr.operand inner ts) first behind)
    (goes : Reads (climb inner floor first behind) tree final) :
    ∃ operand rest, Taken .signed (room + 1) ts operand rest ∧ Stops 20 rest ∧
      Reads (climb inner floor operand rest) tree final := by
  rcases sound.operand starts with ⟨base, rfl, rfl, fits⟩ | ⟨taken, stops⟩
  · rcases stops_or_power behind with stops | ⟨more, rfl⟩
    · exact ⟨base.tree, behind, ⟨.unsigned (.single base), rfl, rfl, fits⟩, stops, goes⟩
    -- A power binds tighter than every floor below 30, so it is always taken.
    · obtain ⟨right, rest, reads, goes⟩ := (reads_climb_operator rfl below).mp goes
      have stops := (sound.stops (by decide) reads).of_lt_power (by decide)
      obtain ⟨exponent, rfl, rfl, fits'⟩ := sound.signed (by decide) (by decide) reads
      refine ⟨_, rest, ⟨.unsigned (.raised base exponent), ?_, rfl, ?_⟩, stops, goes⟩
      · simp only [Derivation.tokens, List.append_assoc, List.cons_append]
      · exact Nat.max_lt.mpr ⟨fits, Nat.succ_lt_succ fits'⟩
  · exact ⟨first, behind, taken, stops, goes⟩

/-- Then further factors are taken. -/
theorem Sound.takes_factors (sound : Sound inner room) {ts : List Token} {left : Expr}
    (below : floor < 20) (stops : Stops 20 ts)
    (goes : Reads (climb inner floor left ts) tree final) :
    ∃ extend rest, Taken .moreFactors (room + 1) ts extend rest ∧ Stops 10 rest ∧
      Reads (climb inner floor (extend left) rest) tree final := by
  rcases stops.stops_or_factor with stops | ⟨symbol, more, rfl⟩
  · exact ⟨_, ts, ⟨.noFactor, rfl, rfl, Nat.zero_lt_succ _⟩, stops, goes⟩
  · obtain ⟨right, behind, reads, goes⟩ :=
      (reads_climb_operator (binding?_factor symbol) below).mp goes
    have shorter := reads.length_lt
    obtain ⟨next, rfl, rfl, fits⟩ := sound.signed (by decide) (by decide) reads
    obtain ⟨_, rest, ⟨others, rfl, rfl, fits'⟩, stops, goes⟩ :=
      Sound.takes_factors sound below (sound.stops (by decide) reads) goes
    refine ⟨_, rest, ⟨.factor symbol next others, ?_, rfl, ?_⟩, stops, goes⟩
    · rw [Derivation.tokens, List.cons_append, List.append_assoc]
    · exact Nat.max_lt.mpr ⟨Nat.succ_lt_succ fits, fits'⟩
termination_by ts.length
decreasing_by subst_vars; simp only [List.length_cons]; omega

/-- At last further terms are taken, up to the end of the expression. -/
theorem Sound.takes_terms (sound : Sound inner room) {ts : List Token} {left : Expr}
    (below : floor < 10) (stops : Stops 10 ts)
    (goes : Reads (climb inner floor left ts) tree final) :
    Stops floor final ∧
      ∃ extend, Taken .moreTerms (room + 1) ts extend final ∧ extend left = tree := by
  rcases stops.stops_or_sum with stops | ⟨symbol, more, rfl⟩
  · have stops : Stops floor ts := stops.mono (Nat.zero_le _)
    obtain ⟨rfl, rfl⟩ := (reads_climb_of_stops stops).mp goes
    exact ⟨stops, _, ⟨.noTerm, rfl, rfl, Nat.zero_lt_succ _⟩, rfl⟩
  · obtain ⟨right, behind, reads, goes⟩ :=
      (reads_climb_operator (binding?_sum symbol) below).mp goes
    have shorter := reads.length_lt
    obtain ⟨next, rfl, rfl, fits⟩ := sound.term (by decide) (by decide) reads
    obtain ⟨ends, _, ⟨others, rfl, rfl, fits'⟩, rfl⟩ :=
      Sound.takes_terms sound below (sound.stops (by decide) reads) goes
    refine ⟨ends, _, ⟨.summand symbol next others, ?_, rfl, ?_⟩, rfl⟩
    · rw [Derivation.tokens, List.cons_append, List.append_assoc]
    · exact Nat.max_lt.mpr ⟨Nat.succ_lt_succ fits, fits'⟩
termination_by ts.length
decreasing_by subst_vars; simp only [List.length_cons]; omega

/-! A reader with room for one more expression takes what its floor lets it take: what a floor
leaves is not looked at by the steps that belong to lower floors. -/

theorem Sound.read_signed (sound : Sound (read room) room) (low : 20 ≤ floor) (below : floor < 30)
    (reads : Reads (read (room + 1) floor ts) tree rest) :
    Taken .signed (room + 1) ts tree rest ∧ Stops floor rest := by
  obtain ⟨first, behind, starts, goes⟩ := reads_read.mp reads
  obtain ⟨_, _, taken, stops, goes⟩ := sound.takes_signed below starts goes
  have stops := stops.mono low
  obtain ⟨rfl, rfl⟩ := (reads_climb_of_stops stops).mp goes
  exact ⟨taken, stops⟩

theorem Sound.read_term (sound : Sound (read room) room) (low : 10 ≤ floor) (below : floor < 20)
    (reads : Reads (read (room + 1) floor ts) tree rest) :
    Taken .term (room + 1) ts tree rest ∧ Stops floor rest := by
  obtain ⟨first, behind, starts, goes⟩ := reads_read.mp reads
  obtain ⟨_, _, ⟨first, rfl, rfl, fits⟩, stops, goes⟩ :=
    sound.takes_signed (by omega) starts goes
  obtain ⟨_, _, ⟨more, rfl, rfl, fits'⟩, stops, goes⟩ := sound.takes_factors below stops goes
  have stops := stops.mono low
  obtain ⟨rfl, rfl⟩ := (reads_climb_of_stops stops).mp goes
  refine ⟨⟨.term first more, ?_, rfl, Nat.max_lt.mpr ⟨fits, fits'⟩⟩, stops⟩
  rw [Derivation.tokens, List.append_assoc]

theorem Sound.read_expression (sound : Sound (read room) room) (below : floor < 10)
    (reads : Reads (read (room + 1) floor ts) tree rest) :
    Taken .expression (room + 1) ts tree rest ∧ Stops floor rest := by
  obtain ⟨first, behind, starts, goes⟩ := reads_read.mp reads
  obtain ⟨_, _, ⟨first, rfl, rfl, fits⟩, stops, goes⟩ :=
    sound.takes_signed (by omega) starts goes
  obtain ⟨_, _, ⟨factors, rfl, rfl, fits'⟩, stops, goes⟩ :=
    sound.takes_factors (by omega) stops goes
  obtain ⟨ends, _, ⟨terms, rfl, rfl, fits''⟩, rfl⟩ := sound.takes_terms below stops goes
  refine ⟨⟨.expression (.term first factors) terms, ?_, rfl, ?_⟩, ends⟩
  · simp only [Derivation.tokens, List.append_assoc]
  · exact Nat.max_lt.mpr ⟨Nat.max_lt.mpr ⟨fits, fits'⟩, fits''⟩

theorem sound_read (room : Nat) : Sound (read room) room := by
  induction room with
  | zero =>
    exact ⟨fun _ reads => absurd reads not_reads_read_zero,
      fun _ _ reads => absurd reads not_reads_read_zero,
      fun _ _ reads => absurd reads not_reads_read_zero,
      fun _ reads => absurd reads not_reads_read_zero⟩
  | succ room sound =>
    refine ⟨?_, fun low below reads => (sound.read_signed low below reads).1,
      fun low below reads => (sound.read_term low below reads).1,
      fun below reads => (sound.read_expression below reads).1⟩
    -- Each floor is that of one of the three.
    intro floor ts tree rest below reads
    rcases Nat.lt_or_ge floor 10 with low | high
    · exact (sound.read_expression low reads).2
    · rcases Nat.lt_or_ge floor 20 with low | high'
      · exact (sound.read_term high low reads).2
      · exact (sound.read_signed high' below reads).2

/-! ## Rows of tokens -/

/-- A row of tokens is read as an expression exactly if it has a derivation that is nested less than
the limit. -/
theorem ofTokens_eq_ok_iff :
    ofTokens ts = .ok tree ↔
      ∃ d : Derivation .expression, d.tokens = ts ∧ d.nesting < nestingLimit ∧ d.tree = tree := by
  rw [ofTokens_eq_ok_iff_reads]
  constructor
  · intro reads
    obtain ⟨d, tokens, meaning, fits⟩ := (sound_read nestingLimit).expression (by decide) reads
    exact ⟨d, by rw [tokens, List.append_nil], fits, meaning⟩
  · rintro ⟨d, rfl, fits, rfl⟩
    have reads : Reads (read nestingLimit 0 (d.tokens ++ [])) d.tree [] :=
      ReadsOn.reads (isRead d) fits (by decide) trivial trivial
    rwa [List.append_nil] at reads

end FormulaEditor.Grammar
