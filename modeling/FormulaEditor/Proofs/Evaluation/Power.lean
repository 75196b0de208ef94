import FormulaEditor.Proofs.Evaluation.Exactness

/-! # Powers that are whole numbers

Whether a power is taken exactly is decided by an estimate of its size: the bits of the larger part
of the base, times the exponent.  Where the power is a whole number short enough for a result, the
estimate is far below its bound, except for the bases zero, one and minus one: their powers have one
bit, and the estimate grows with the exponent all the same.
-/

namespace FormulaEditor

/-! ## The bits of a base and of its powers -/

/-- The larger part of a fraction in lowest terms. -/
def largerPart (a : Rat) : Nat := max a.num.natAbs a.den

/-- The fractions whose powers never grow in size. -/
def IsSteadyBase (a : Rat) : Prop := a = 0 ∨ a = 1 ∨ a = -1

theorem bitLength_mono {m n : Nat} (le : m ≤ n) : bitLength m ≤ bitLength n := by
  rw [Value.bitLength_le_iff]
  exact Nat.lt_of_le_of_lt le ((Value.bitLength_le_iff n _).mp (Nat.le_refl _))

theorem ratBits_eq (a : Rat) : ratBits a = bitLength (largerPart a) := by
  rw [ratBits, largerPart]
  rcases Nat.le_total a.num.natAbs a.den with le | le
  · rw [Nat.max_eq_right le, Nat.max_eq_right (bitLength_mono le)]
  · rw [Nat.max_eq_left le, Nat.max_eq_left (bitLength_mono le)]

theorem isSteadyBase_iff {a : Rat} : IsSteadyBase a ↔ largerPart a = 1 := by
  have positive := a.den_pos
  constructor
  · rintro (rfl | rfl | rfl) <;> rfl
  · intro one
    rw [largerPart] at one
    have whole : a = a.num := Rat.ext (by simp) (by simp; omega)
    rw [IsSteadyBase, whole]
    have small : a.num = 0 ∨ a.num = 1 ∨ a.num = -1 := by omega
    rcases small with zero | one | minus
    · exact .inl (by rw [zero]; rfl)
    · exact .inr (.inl (by rw [one]; rfl))
    · exact .inr (.inr (by rw [minus]; rfl))

theorem two_le_largerPart {a : Rat} (grows : ¬ IsSteadyBase a) : 2 ≤ largerPart a := by
  have positive : 1 ≤ largerPart a := Nat.le_trans a.den_pos (Nat.le_max_right _ _)
  have other : largerPart a ≠ 1 := mt isSteadyBase_iff.mpr grows
  omega

theorem log2_mul_lt_of_pow_lt {m k bits : Nat} (nonzero : m ≠ 0) (short : m ^ k < 2 ^ bits) :
    m.log2 * k < bits := by
  have below : 2 ^ (m.log2 * k) ≤ m ^ k := by
    rw [Nat.pow_mul]
    exact Nat.pow_le_pow_left (Nat.log2_self_le nonzero) k
  exact (Nat.pow_lt_pow_iff_right (by decide)).mp (Nat.lt_of_le_of_lt below short)

/-- The estimate for a power is at most twice the bits that bound the power. -/
theorem bitLength_mul_le_of_pow_lt {m k bits : Nat} (two_le : 2 ≤ m) (short : m ^ k < 2 ^ bits) :
    bitLength m * k ≤ 2 * bits := by
  have nonzero : m ≠ 0 := by omega
  have one_le : 1 ≤ m.log2 := (Nat.le_log2 nonzero).mpr two_le
  have length : bitLength m ≤ 2 * m.log2 := by
    rw [bitLength, if_neg nonzero]
    omega
  calc bitLength m * k
      ≤ 2 * m.log2 * k := Nat.mul_le_mul_right k length
    _ = 2 * (m.log2 * k) := Nat.mul_assoc 2 m.log2 k
    _ ≤ 2 * bits := Nat.mul_le_mul_left 2 (Nat.le_of_lt (log2_mul_lt_of_pow_lt nonzero short))

/-! ## Powers that are whole -/

theorem natAbs_num_pow (a : Rat) (k : Nat) : (a ^ k).num.natAbs = a.num.natAbs ^ k := by
  rw [Rat.num_pow, Int.natAbs_pow]

/-- A whole power of a fraction, to an exponent other than zero: the smaller part of the fraction is
one, and the size of the power is the power of the larger part. -/
theorem natAbs_eq_largerPart_pow {a : Rat} {b n : Int} (nonzero : a ≠ 0) (power : a ^ b = n) :
    n.natAbs = largerPart a ^ b.natAbs := by
  have numerator : a.num.natAbs ≠ 0 := by simpa using nonzero
  have positive := a.den_pos
  obtain ⟨k, rfl | rfl⟩ := b.eq_nat_or_neg
  · rw [Rat.zpow_natCast] at power
    rw [Int.natAbs_natCast]
    have size : n.natAbs = a.num.natAbs ^ k := by rw [← natAbs_num_pow, power, Rat.num_intCast]
    have denominator : a.den ^ k = 1 := by rw [← Rat.den_pow, power, Rat.den_intCast]
    rcases Nat.pow_eq_one.mp denominator with one | rfl
    · rw [size, largerPart, Nat.max_eq_left (by omega)]
    · rw [size, Nat.pow_zero, Nat.pow_zero]
  · rw [Rat.zpow_neg, Rat.zpow_natCast] at power
    rw [Int.natAbs_neg, Int.natAbs_natCast]
    -- Numerator and denominator of the power change places.
    have apart : (a ^ k).num ≠ 0 := by
      rw [← Int.natAbs_ne_zero, natAbs_num_pow]
      exact Nat.ne_of_gt (Nat.pow_pos (Nat.pos_of_ne_zero numerator))
    have size : n.natAbs = a.den ^ k := by
      have size := congrArg (Int.natAbs ·.num) power
      simp only [Rat.num_inv, Int.natAbs_mul, Int.natAbs_sign, if_neg apart, Rat.den_pow,
        Int.natAbs_natCast, Nat.one_mul, Rat.num_intCast] at size
      exact size.symm
    have one : a.num.natAbs ^ k = 1 := by
      have one := congrArg Rat.den power
      rwa [Rat.den_inv, if_neg apart, natAbs_num_pow, Rat.den_intCast] at one
    rcases Nat.pow_eq_one.mp one with one | rfl
    · rw [size, largerPart, Nat.max_eq_right (by omega)]
    · rw [size, Nat.pow_zero, Nat.pow_zero]

/-- The estimate admits a power that can be given as a result, unless the base is steady and the
exponent alone is beyond the bound. -/
theorem ratBits_mul_le_iff {a : Rat} {b n : Int} (power : a ^ b = n)
    (short : bitLength n.natAbs ≤ Value.resultBits) :
    ratBits a * b.natAbs ≤ Value.exactPowerBits ↔
      (IsSteadyBase a → b.natAbs ≤ Value.exactPowerBits) := by
  rw [ratBits_eq]
  by_cases steady : IsSteadyBase a
  · have one : bitLength 1 = 1 := by decide
    rw [isSteadyBase_iff.mp steady, one, Nat.one_mul]
    exact ⟨fun le _ => le, fun le => le steady⟩
  · refine iff_of_true ?_ (absurd · steady)
    have nonzero : a ≠ 0 := fun zero => steady (.inl zero)
    rw [Value.bitLength_le_iff, natAbs_eq_largerPart_pow nonzero power] at short
    have bounded := bitLength_mul_le_of_pow_lt (two_le_largerPart steady) short
    rw [Value.resultBits] at bounded
    rw [Value.exactPowerBits]
    omega

/-! ## Evaluating a power -/

namespace Value

/-- The power of exact values that is taken exactly, the estimate being within its bound. -/
theorem power_of_le {a : Rat} {b : Int} (defined : ¬ (a = 0 ∧ b < 0))
    (within : ratBits a * b.natAbs ≤ exactPowerBits) :
    power (.exact a) (.exact b) = .ok (.exact (a ^ b)) := by
  have noZero : ¬ ((Value.exact a).isZero && (Value.exact b).isBelowZero) = true := by
    simpa [isZero, isBelowZero, Rat.intCast_neg_iff] using defined
  have admitted : (b : Rat).den = 1 ∧ ratBits a * (b : Rat).num.natAbs ≤ exactPowerBits := by
    rw [Rat.num_intCast]
    exact ⟨Rat.den_intCast b, within⟩
  rw [power, if_neg noZero, exactPower?, if_pos admitted, wholePower_eq, Rat.num_intCast]

theorem exists_int_of_exactPower? {a b q : Rat} (taken : exactPower? (.exact a) (.exact b) = some q) :
    ∃ n : Int, b = n ∧ q = a ^ n ∧ ratBits a * n.natAbs ≤ exactPowerBits := by
  rw [exactPower?] at taken
  split at taken
  · next admitted =>
    cases taken
    exact ⟨b.num, Rat.ext (by simp) (by simp [admitted.1]), wholePower_eq a b.num, admitted.2⟩
  · cases taken

/-- Which powers of exact numbers are exact, and what they are. -/
theorem power_eq_exact_iff {a b q : Rat} :
    power (.exact a) (.exact b) = .ok (.exact q) ↔
      ¬ (a = 0 ∧ b < 0) ∧ ∃ n : Int, b = n ∧ ratBits a * n.natAbs ≤ exactPowerBits ∧ q = a ^ n := by
  constructor
  · intro powered
    rw [power] at powered
    split at powered
    · cases powered
    · next defined =>
      refine ⟨by simpa [isZero, isBelowZero] using defined, ?_⟩
      split at powered
      · next taken =>
        cases powered
        obtain ⟨n, whole, value, within⟩ := exists_int_of_exactPower? taken
        exact ⟨n, whole, within, value⟩
      · exact absurd powered (roundedPower_ne_exact _ _ q)
  · rintro ⟨defined, n, rfl, within, rfl⟩
    exact power_of_le (by simpa [Rat.intCast_neg_iff] using defined) within

/-- A power that is not within the bound is never exact. -/
theorem power_ne_exact_of_lt {a : Rat} {b : Int} (beyond : exactPowerBits < ratBits a * b.natAbs)
    (q : Rat) : power (.exact a) (.exact b) ≠ .ok (.exact q) := by
  intro powered
  obtain ⟨-, n, same, within, -⟩ := power_eq_exact_iff.mp powered
  rw [Rat.intCast_inj.mp same] at beyond
  exact Nat.not_lt.mpr within beyond

end Value

namespace Expr

variable {bindings : Bindings} {env : ExactBindings} {left right : Expr} {a : Rat} {b : Int}

theorem computed_power {q : Rat} (base : left.computed env = .ok (.exact a))
    (exponent : right.computed env = .ok (.exact q)) :
    (binary "^" left right).computed env = Value.power (.exact a) (.exact q) := by
  have caret : Operator.ofSymbol? "^" = some .power := by decide
  rw [computed_binary, base, exponent]
  change Value.apply "^" _ _ = _
  rw [Value.apply, Value.operation?, caret]

/-- A power of exact operands that is a whole number short enough for a result is that result,
marked as exact, just if the base is not steady or the exponent is within the bound of the
estimate. -/
theorem evaluate_power_exact_iff (made : bindings.toExact = .ok env)
    (base : left.computed env = .ok (.exact a)) (exponent : right.computed env = .ok (.exact b))
    (defined : ¬ (a = 0 ∧ b < 0)) {n : Int} (power : a ^ b = n)
    (short : bitLength n.natAbs ≤ Value.resultBits) :
    (∃ steps, (binary "^" left right).evaluate bindings = .ok ⟨.int n, true, steps⟩) ↔
      (IsSteadyBase a → b.natAbs ≤ Value.exactPowerBits) := by
  have computes := computed_power base exponent
  rw [← ratBits_mul_le_iff power short]
  constructor
  · rintro ⟨steps, evaluated⟩
    obtain ⟨env', v, made', ended, given⟩ := exists_computed_of_evaluate evaluated
    rw [made] at made'
    cases made'
    obtain ⟨i, rfl, -⟩ := Value.eq_int_of_toResult given
    rw [computes] at ended
    refine Nat.not_lt.mp fun beyond => ?_
    exact Value.power_ne_exact_of_lt beyond _ ended
  · intro within
    rw [Value.power_of_le defined within, power] at computes
    obtain ⟨steps, evaluated⟩ := evaluate_of_ok made computes
    rw [Value.bitLength_le_iff, Value.resultBits] at short
    rw [Value.toResult_int_of_lt short] at evaluated
    exact ⟨steps, evaluated⟩

/-- One half to the power of minus ten. -/
theorem evaluate_half_to_minus_ten :
    ∃ steps, (binary "^" (binary "/" (number (.int 1)) (number (.int 2)))
      (unary "-" (number (.int 10)))).evaluate [] = .ok ⟨.int 1024, true, steps⟩ := by
  have base : (binary "/" (number (.int 1)) (number (.int 2))).computed [] =
      .ok (.exact ((1 : Rat) / 2)) := by
    rw [computed_binary, computed_number, computed_number]
    rfl
  have exponent : (unary "-" (number (.int 10))).computed [] = .ok (.exact ((-10 : Int) : Rat)) := by
    rw [computed_unary, computed_number]
    rfl
  have defined : ¬ ((1 : Rat) / 2 = 0 ∧ (-10 : Int) < 0) := by decide +kernel
  have power : ((1 : Rat) / 2) ^ (-10 : Int) = (1024 : Int) := by decide +kernel
  have short : bitLength (1024 : Int).natAbs ≤ Value.resultBits := by decide
  refine (evaluate_power_exact_iff rfl base exponent defined power short).mpr fun _ => ?_
  decide

/-- One to the power of nine thousand is one, but it is computed with binary numbers, and the answer
is not marked as exact. -/
theorem evaluate_one_pow_not_exact :
    (1 : Rat) ^ (9000 : Int) = (1 : Int) ∧
      ∃ steps, (binary "^" (number (.int 1)) (number (.int 9000))).evaluate [] =
        .ok ⟨.float Binary64.one, false, steps⟩ := by
  have rounded : Value.power (.exact (1 : Int)) (.exact (9000 : Int)) =
      .ok (.binary Binary64.one) := rfl
  have computes : (binary "^" (number (.int 1)) (number (.int 9000))).computed [] =
      .ok (.binary Binary64.one) := by
    rw [← rounded]
    apply computed_power <;> rw [computed_number] <;> rfl
  have unbound : Bindings.toExact [] = .ok [] := rfl
  obtain ⟨steps, evaluated⟩ := evaluate_of_ok unbound computes
  refine ⟨?_, steps, evaluated⟩
  have one_pow : ∀ k : Nat, (1 : Rat) ^ k = 1 := by
    intro k
    induction k with
    | zero => rfl
    | succ k ih => rw [Rat.pow_succ, ih, Rat.mul_one]
  exact one_pow 9000

end Expr

end FormulaEditor
