import FormulaEditor.Proofs.Binary64.Range
import FormulaEditor.Proofs.Evaluation.Numeric
import FormulaEditor.Proofs.Evaluation.Rational

/-! # Which answers are exact

An answer that is marked as exact is the rational of the expression, and a whole number.  As long as
all powers are taken exactly the machine computes that rational, and fails only where the expression
hits zero; a result is rounded, or refused as too large, only in the end.
-/

namespace FormulaEditor

variable {bindings : Bindings} {env : ExactBindings}

/-! ## Exact values are those of the expression -/

namespace Expr

theorem sign_eq_exact {symbol : String} {v : Value} {q : Rat}
    (signed : (Step.sign symbol v).1 = .exact q) :
    ∃ p, v = .exact p ∧ q = if symbol = "+" then p else -p := by
  cases v with
  | binary x =>
    rw [Step.sign] at signed
    split at signed <;> cases signed
  | exact p =>
    refine ⟨p, rfl, ?_⟩
    rw [Step.sign] at signed
    split at signed
    · next plus =>
      cases signed
      rw [if_pos plus]
    · next other =>
      cases signed
      rw [if_neg other]

/-- An exact value is the rational of the expression, and all parts have exact values. -/
theorem computed_eq_exact (made : bindings.toExact = .ok env) {e : Expr} {q : Rat}
    (ended : e.computed env = .ok (.exact q)) :
    e.exactValue? bindings = some q ∧
      ∀ part ∈ e.parts, ∃ r, part.computed env = .ok (.exact r) := by
  induction e generalizing q with
  | missing =>
    rw [computed_missing] at ended
    cases ended
  | number n =>
    constructor
    · rw [computed_number] at ended
      obtain ⟨r, rational, same⟩ := map_eq_ok_iff.mp ended
      cases same
      exact Value.ofNumber_eq_ok_iff.mp rational
    · intro part member
      rw [parts, List.mem_singleton] at member
      exact ⟨q, member ▸ ended⟩
  | «variable» id name own =>
    constructor
    · rw [computed_variable] at ended
      obtain ⟨r, rational, -⟩ := map_eq_ok_iff.mp ended
      obtain ⟨q', found, value⟩ :=
        Step.valueOf_eq_exact id made (Value.ofNumber_eq_ok_iff.mp rational)
      rw [found] at ended
      cases ended
      exact value
    · intro part member
      rw [parts, List.mem_singleton] at member
      exact ⟨q, member ▸ ended⟩
  | unary symbol operand ih =>
    have whole := ended
    rw [computed_unary] at ended
    obtain ⟨v, inner, signed⟩ := map_eq_ok_iff.mp ended
    obtain ⟨p, rfl, rfl⟩ := sign_eq_exact signed
    obtain ⟨value, exactParts⟩ := ih inner
    constructor
    · rw [exactValue?, value]
      rfl
    · intro part member
      rw [parts, List.mem_cons] at member
      rcases member with rfl | member
      · exact ⟨_, whole⟩
      · exact exactParts part member
  | binary symbol left right ihLeft ihRight =>
    have whole := ended
    rw [computed_binary] at ended
    obtain ⟨a, leftEnded, ended⟩ := bind_eq_ok_iff.mp ended
    obtain ⟨b, rightEnded, applied⟩ := bind_eq_ok_iff.mp ended
    -- The operator has an exact result, so both operands are exact as well.
    obtain ⟨op, p, r, found, rfl, rfl, result⟩ := Value.apply_eq_exact applied
    obtain ⟨leftValue, leftParts⟩ := ihLeft leftEnded
    obtain ⟨rightValue, rightParts⟩ := ihRight rightEnded
    constructor
    · rw [exactValue?, leftValue, rightValue, found]
      exact result
    · intro part member
      rw [parts, List.mem_cons, List.mem_append] at member
      rcases member with rfl | member | member
      · exact ⟨q, whole⟩
      · exact leftParts part member
      · exact rightParts part member

end Expr

/-! ## Powers that are taken exactly -/

/-- The power of the two values is taken exactly, or refused as a negative power of zero. -/
def Value.TakesExactPower (a b : Value) : Prop :=
  ∃ p q, a = .exact p ∧ b = .exact q ∧ q.den = 1 ∧
    ((p = 0 ∧ q < 0) ∨ ratBits p * q.num.natAbs ≤ exactPowerBits)

/-- All powers that are met are taken exactly. What stands on the right of an operator is met once
the left has a value. -/
def Expr.PowersExact (env : ExactBindings) : Expr → Prop
  | .missing | .number _ | .variable _ _ _ => True
  | .unary _ operand => operand.PowersExact env
  | .binary symbol left right =>
    left.PowersExact env ∧ ∀ a, left.computed env = .ok a →
      right.PowersExact env ∧ ∀ b, right.computed env = .ok b →
        Operator.ofSymbol? symbol = some .power → a.TakesExactPower b

/-- Between exact values an operator has an exact result, unless it hits zero. -/
theorem Value.apply_exact {symbol : String} {op : Operator} {p q : Rat}
    (known : (operation? symbol).isSome) (found : Operator.ofSymbol? symbol = some op)
    (power : op = .power → TakesExactPower (.exact p) (.exact q)) :
    (∃ r, apply symbol (.exact p) (.exact q) = .ok (.exact r)) ∨
      (op.HitsZero p q ∧
        ∃ cause, apply symbol (.exact p) (.exact q) = .error cause ∧
          cause.family = .zeroDivision) := by
  rw [operation?, found] at known
  rw [apply, operation?, found]
  cases op with
  | plus | minus | times => exact .inl ⟨_, rfl⟩
  | divide =>
    by_cases zero : q = 0
    · refine .inr ⟨.inl ⟨rfl, zero⟩, .divisionByZero, ?_, rfl⟩
      exact if_pos (by simp [isZero, zero])
    · exact .inl ⟨p / q, if_neg (by simp [isZero, zero])⟩
  | power =>
    by_cases zero : p = 0 ∧ q < 0
    · refine .inr ⟨.inr ⟨rfl, zero⟩, .zeroToNegative, ?_, rfl⟩
      exact if_pos (by simp [isZero, isBelowZero, zero])
    · obtain ⟨p', q', samep, sameq, whole, bounded⟩ := power rfl
      cases samep
      cases sameq
      have bounded := bounded.resolve_left zero
      have taken : exactPower? (.exact p) (.exact q) = some (wholePower p q.num) :=
        if_pos ⟨whole, bounded⟩
      have nonzero : ¬ ((Value.exact p).isZero && (Value.exact q).isBelowZero) = true := by
        simpa [isZero, isBelowZero] using zero
      refine .inl ⟨wholePower p q.num, ?_⟩
      change Value.power _ _ = _
      rw [Value.power, if_neg nonzero, taken]
  | openParen | closeParen => cases known

/-- A complete tree whose powers are exact has an exact value, unless it hits zero. -/
theorem Expr.computed_of_powersExact (made : bindings.toExact = .ok env) {e : Expr}
    (complete : e.IsComplete) (finite : ∀ n ∈ e.numbers, n.isFinite = true)
    (exactly : e.PowersExact env) :
    (∃ q, e.computed env = .ok (.exact q)) ∨
      (e.HitsZero bindings ∧
        ∃ cause, e.computed env = .error cause ∧ cause.family = .zeroDivision) := by
  induction e with
  | missing => exact complete.elim
  | number n =>
    obtain ⟨q, rational⟩ := Number.toRat?_of_isFinite (finite n (by simp [numbers]))
    refine .inl ⟨q, ?_⟩
    rw [computed_number, Value.ofNumber_eq_ok_iff.mpr rational]
    rfl
  | «variable» id name own =>
    obtain ⟨own', rational⟩ := Number.toRat?_of_isFinite (finite own (by simp [numbers]))
    obtain ⟨q, found, -⟩ := Step.valueOf_eq_exact id made rational
    exact .inl ⟨q, by rw [computed_variable, found]⟩
  | unary symbol operand ih =>
    rw [computed_unary]
    rcases ih complete finite exactly with ⟨q, ended⟩ | ⟨hits, cause, failed, zero⟩
    · rw [ended]
      by_cases plus : symbol = "+"
      · exact .inl ⟨q, by simp [Except.map, Step.sign, plus]⟩
      · exact .inl ⟨-q, by simp [Except.map, Step.sign, plus, Value.neg]⟩
    · refine .inr ⟨hits, cause, ?_, zero⟩
      rw [failed]
      rfl
  | binary symbol left right ihLeft ihRight =>
    obtain ⟨known, leftComplete, rightComplete⟩ := complete
    obtain ⟨leftExactly, rightExactly⟩ := exactly
    rw [computed_binary]
    have leftFinite : ∀ n ∈ left.numbers, n.isFinite = true := fun n member =>
      finite n (by simp [numbers, member])
    have rightFinite : ∀ n ∈ right.numbers, n.isFinite = true := fun n member =>
      finite n (by simp [numbers, member])
    -- The first operand that fails has hit zero, and the whole fails as it does.
    rcases (ihLeft leftComplete leftFinite leftExactly).symm with
      ⟨hits, cause, failed, zero⟩ | ⟨p, leftEnded⟩
    · refine .inr ⟨.inl hits, cause, ?_, zero⟩
      rw [failed]
      rfl
    obtain ⟨rightExactly, powerExactly⟩ := rightExactly _ leftEnded
    rcases (ihRight rightComplete rightFinite rightExactly).symm with
      ⟨hits, cause, failed, zero⟩ | ⟨q, rightEnded⟩
    · refine .inr ⟨.inr (.inl hits), cause, ?_, zero⟩
      rw [leftEnded, failed]
      rfl
    -- Both operands are exact, and so are the rationals that the operator is applied to.
    rw [leftEnded, rightEnded]
    cases found : Operator.ofSymbol? symbol with
    | none =>
      rw [Value.operation?, found] at known
      cases known
    | some op =>
      have power : op = .power → Value.TakesExactPower (.exact p) (.exact q) := by
        rintro rfl
        exact powerExactly _ rightEnded found
      rcases Value.apply_exact known found power with ended | ⟨hits, failed⟩
      · exact .inl ended
      · refine .inr ⟨.inr (.inr ⟨op, p, q, found, ?_, ?_, hits⟩), failed⟩
        · exact (computed_eq_exact made leftEnded).1
        · exact (computed_eq_exact made rightEnded).1

/-! ## Results of exact values -/

namespace Value

theorem bitLength_le_iff (n bits : Nat) : bitLength n ≤ bits ↔ n < 2 ^ bits := by
  rw [bitLength]
  by_cases zero : n = 0
  · rw [if_pos zero, zero]
    exact iff_of_true (Nat.zero_le bits) (Nat.two_pow_pos bits)
  · rw [if_neg zero, Nat.succ_le_iff, Nat.log2_lt zero]

theorem toResult_int_of_lt {n : Int} (small : n.natAbs < 2 ^ 1024) :
    (Value.exact n).toResult = .ok (.int n, true) := by
  have fits : (n : Rat).den = 1 ∧ bitLength (n : Rat).num.natAbs ≤ resultBits :=
    ⟨Rat.den_intCast n, by rwa [bitLength_le_iff, Rat.num_intCast, resultBits]⟩
  rw [toResult, if_pos fits, Rat.num_intCast]

theorem toResult_int_of_le {n : Int} (large : 2 ^ 1024 ≤ n.natAbs) :
    (Value.exact n).toResult = .error .exactTooLarge := by
  have tooLong : ¬ ((n : Rat).den = 1 ∧ bitLength (n : Rat).num.natAbs ≤ resultBits) := by
    rintro ⟨-, short⟩
    rw [bitLength_le_iff, Rat.num_intCast, resultBits] at short
    exact Nat.not_le.mpr short large
  have infinite := Binary64.isFinite_ofRat_of_large large
  rw [toResult, if_neg tooLong, toBinary64, infinite]
  rfl

theorem toResult_fraction {q : Rat} (fraction : ∀ n : Int, q ≠ n) :
    (Value.exact q).toResult = .ok (.float (Binary64.ofRat q), false) ∨
      (Value.exact q).toResult = .error .exactTooLarge := by
  have notWhole : ¬ (q.den = 1 ∧ bitLength q.num.natAbs ≤ resultBits) := by
    rintro ⟨whole, -⟩
    exact fraction q.num (Rat.ext (by simp) (by simp [whole]))
  rw [toResult, if_neg notWhole, toBinary64]
  split
  · exact .inl rfl
  · exact .inr rfl

theorem eq_int_of_toResult {v : Value} {n : Number} (given : v.toResult = .ok (n, true)) :
    ∃ i : Int, v = .exact i ∧ n = .int i := by
  cases v with
  | binary x =>
    rw [toResult] at given
    split at given <;> cases given
  | exact q =>
    rw [toResult] at given
    split at given
    · next whole =>
      cases given
      exact ⟨q.num, congrArg Value.exact (Rat.ext (by simp) (by simp [whole.1])), rfl⟩
    · obtain ⟨x, -, same⟩ := map_eq_ok_iff.mp given
      cases same

end Value

/-! ## Answers -/

/-- Evaluating the expression fails for a cause of the family. -/
def Expr.Raises (e : Expr) (bindings : Bindings) (family : EvalError.Family) : Prop :=
  ∃ cause, e.evaluate bindings = .error cause ∧ cause.family = family

/-- The expression is computed over the rationals up to the result: the value is its rational, only
hitting zero is a division by zero, and the result is the rational itself if it is whole and below
`2 ^ 1024` in magnitude, never a binary number if it is whole and larger, and a binary number or an
overflow if it is not whole. -/
structure Expr.ComputedOverRationals (e : Expr) (bindings : Bindings) (env : ExactBindings) :
    Prop where
  value : ∀ v, e.computed env = .ok v ↔ ∃ q, v = .exact q ∧ e.exactValue? bindings = some q
  zeroDivision : e.Raises bindings .zeroDivision ↔ e.HitsZero bindings
  whole : ∀ n : Int, e.exactValue? bindings = some (n : Rat) → n.natAbs < 2 ^ 1024 →
    ∃ steps, e.evaluate bindings = .ok ⟨.int n, true, steps⟩
  tooLarge : ∀ n : Int, e.exactValue? bindings = some (n : Rat) → 2 ^ 1024 ≤ n.natAbs →
    e.Raises bindings .overflow
  fraction : ∀ q, e.exactValue? bindings = some q → (∀ n : Int, q ≠ n) →
    (∃ x steps, e.evaluate bindings = .ok ⟨.float x, false, steps⟩) ∨
      e.Raises bindings .overflow

theorem Expr.not_raises_zeroDivision_of_exact (made : bindings.toExact = .ok env) {e : Expr}
    {q : Rat} (ended : e.computed env = .ok (.exact q)) : ¬ e.Raises bindings .zeroDivision := by
  rintro ⟨cause, failed, zero⟩
  obtain ⟨steps, evaluated⟩ := evaluate_of_ok made ended
  rw [evaluated] at failed
  by_cases isInt : ∃ n : Int, q = n
  · obtain ⟨n, rfl⟩ := isInt
    by_cases small : n.natAbs < 2 ^ 1024
    · rw [Value.toResult_int_of_lt small] at failed
      cases failed
    · rw [Value.toResult_int_of_le (Nat.not_lt.mp small)] at failed
      cases failed
      cases zero
  · rcases Value.toResult_fraction (fun n same => isInt ⟨n, same⟩) with given | given
    · rw [given] at failed
      cases failed
    · rw [given] at failed
      cases failed
      cases zero

theorem Expr.computedOverRationals (made : bindings.toExact = .ok env) {e : Expr}
    (complete : e.IsComplete) (finite : ∀ n ∈ e.numbers, n.isFinite = true)
    (exactly : e.PowersExact env) : e.ComputedOverRationals bindings env := by
  have outcome := computed_of_powersExact made complete finite exactly
  -- An expression that has a rational does not hit zero, so its value is computed.
  have ends : ∀ q, e.exactValue? bindings = some q → e.computed env = .ok (.exact q) := by
    intro q value
    rcases outcome with ⟨q', ended⟩ | ⟨hits, -⟩
    · have value' := (computed_eq_exact made ended).1
      rw [value] at value'
      cases value'
      exact ended
    · rw [exactValue?_eq_none_of_hitsZero hits] at value
      cases value
  refine ⟨fun v => ⟨fun ended => ?_, ?_⟩, ⟨fun raises => ?_, fun hits => ?_⟩, ?_, ?_, ?_⟩
  · rcases outcome with ⟨q, ended'⟩ | ⟨-, cause, failed, -⟩
    · rw [ended'] at ended
      cases ended
      exact ⟨q, rfl, (computed_eq_exact made ended').1⟩
    · rw [failed] at ended
      cases ended
  · rintro ⟨q, rfl, value⟩
    exact ends q value
  · rcases outcome with ⟨q, ended⟩ | ⟨hits, -⟩
    · exact absurd raises (not_raises_zeroDivision_of_exact made ended)
    · exact hits
  · rcases outcome with ⟨q, ended⟩ | ⟨-, cause, failed, zero⟩
    · have value := (computed_eq_exact made ended).1
      rw [exactValue?_eq_none_of_hitsZero hits] at value
      cases value
    · exact ⟨cause, evaluate_of_error made failed, zero⟩
  · intro n value small
    obtain ⟨steps, evaluated⟩ := evaluate_of_ok made (ends _ value)
    rw [Value.toResult_int_of_lt small] at evaluated
    exact ⟨steps, evaluated⟩
  · intro n value large
    obtain ⟨steps, evaluated⟩ := evaluate_of_ok made (ends _ value)
    rw [Value.toResult_int_of_le large] at evaluated
    exact ⟨.exactTooLarge, evaluated, rfl⟩
  · intro q value fraction
    obtain ⟨steps, evaluated⟩ := evaluate_of_ok made (ends _ value)
    rcases Value.toResult_fraction fraction with given | given
    · rw [given] at evaluated
      exact .inl ⟨_, steps, evaluated⟩
    · rw [given] at evaluated
      exact .inr ⟨.exactTooLarge, evaluated, rfl⟩

/-- What an exact answer says: it is a whole number, the rational of the expression, and no part of
the expression has been rounded. -/
theorem Expr.exact_answer (made : bindings.toExact = .ok env) {e : Expr} {answer : Answer}
    (answered : e.evaluate bindings = .ok answer) (exactly : answer.isExact = true) :
    (∃ n : Int, answer.value = .int n ∧ e.exactValue? bindings = some (n : Rat)) ∧
      ∀ part ∈ e.parts, ∃ q, part.computed env = .ok (.exact q) := by
  obtain ⟨env', v, made', ended, given⟩ := exists_computed_of_evaluate answered
  rw [made] at made'
  cases made'
  rw [exactly] at given
  obtain ⟨n, rfl, whole⟩ := Value.eq_int_of_toResult given
  obtain ⟨value, exactParts⟩ := computed_eq_exact made ended
  exact ⟨⟨n, whole, value⟩, exactParts⟩

/-- For a complete tree over finite numbers: an exact answer is the rational of the expression and
whole; where all powers that are met are taken exactly the expression is computed over the
rationals; and where some part was rounded the answer is not exact. -/
theorem Expr.evaluate_exactness {e : Expr} {bindings : Bindings} (complete : e.IsComplete)
    (finite : ∀ n ∈ e.numbers, n.isFinite = true) (bound : ∀ b ∈ bindings, b.2.isFinite = true) :
    ∃ env, bindings.toExact = .ok env ∧
      (∀ answer, e.evaluate bindings = .ok answer → answer.isExact = true →
        ∃ n : Int, answer.value = .int n ∧ e.exactValue? bindings = some (n : Rat)) ∧
      (e.PowersExact env → e.ComputedOverRationals bindings env) ∧
      (∀ answer part x, e.evaluate bindings = .ok answer → part ∈ e.parts →
        part.computed env = .ok (.binary x) → answer.isExact = false) := by
  obtain ⟨env, made⟩ := Bindings.toExact_of_finite bound
  refine ⟨env, made, ?_, ?_, ?_⟩
  · intro answer answered exactly
    exact (exact_answer made answered exactly).1
  · intro exactly
    exact computedOverRationals made complete finite exactly
  · intro answer part x answered member rounded
    rw [← Bool.not_eq_true]
    intro exactly
    obtain ⟨q, ended⟩ := (exact_answer made answered exactly).2 part member
    rw [rounded] at ended
    cases ended

/-- One half times the square of a variable. -/
def Expr.halfSquare : Expr :=
  .binary "*" (.number (.float (.finite false 0x10000000000000 (-53))))
    (.binary "^" (.variable (.whole "17") (.whole "x") (.int 0)) (.number (.int 2)))

theorem Expr.evaluate_halfSquare :
    ∃ steps, Expr.halfSquare.evaluate [(.whole "17", .int 4)] = .ok ⟨.int 8, true, steps⟩ := by
  have complete : Expr.halfSquare.IsComplete := ⟨rfl, trivial, rfl, trivial, trivial⟩
  have finite : ∀ n ∈ Expr.halfSquare.numbers, n.isFinite = true := by decide
  have bound : ∀ b ∈ [(RawText.whole "17", Number.int 4)], b.2.isFinite = true := by decide
  obtain ⟨env, made, -, overRationals, -⟩ := Expr.evaluate_exactness complete finite bound
  cases made
  have exactly : Expr.halfSquare.PowersExact [(.whole "17", 4)] := by
    refine ⟨trivial, fun _ _ => ⟨⟨trivial, fun p base => ⟨trivial, fun q exponent _ => ?_⟩⟩,
      fun _ _ found => ?_⟩⟩
    · rw [computed_variable] at base
      rw [computed_number] at exponent
      cases base
      cases exponent
      exact ⟨4, 2, rfl, rfl, rfl, .inr (by decide)⟩
    · have times : Operator.ofSymbol? "*" = some .times := by decide
      rw [times] at found
      cases found
  have value : Expr.halfSquare.exactValue? [(.whole "17", .int 4)] = some ((8 : Int) : Rat) := by
    decide +kernel
  have small : ∀ bits, 8 < bits → (8 : Int).natAbs < 2 ^ bits := fun bits more =>
    Nat.lt_trans more Nat.lt_two_pow_self
  exact (overRationals exactly).whole 8 value (small 1024 (by decide))

end FormulaEditor
