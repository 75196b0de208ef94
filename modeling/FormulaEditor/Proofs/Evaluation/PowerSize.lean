import Mathlib.Algebra.Field.Rat
import FormulaEditor.Proofs.Evaluation.Power

/-! # The size of exact powers

Whether a power is taken exactly is decided before anything is multiplied, by an estimate: the bits
of the larger part of the base, times the exponent.  The estimate is never too low.  Neither part of
the power has more bits, a single bit apart where the exponent is zero, and this holds for negative
exponents as well, which make the parts change places.
-/

namespace FormulaEditor

/-! ## Bits of powers -/

theorem bitLength_pow_le (n k : Nat) : bitLength (n ^ k) ≤ max 1 (bitLength n * k) := by
  rw [Value.bitLength_le_iff]
  have below : n < 2 ^ bitLength n := (Value.bitLength_le_iff n _).mp (Nat.le_refl _)
  cases k with
  | zero => simp
  | succ k =>
    calc n ^ (k + 1)
        < (2 ^ bitLength n) ^ (k + 1) := Nat.pow_lt_pow_left below (Nat.succ_ne_zero k)
      _ = 2 ^ (bitLength n * (k + 1)) := (Nat.pow_mul 2 _ _).symm
      _ ≤ 2 ^ max 1 (bitLength n * (k + 1)) :=
        Nat.pow_le_pow_right (by decide) (Nat.le_max_right _ _)

theorem ratBits_pow_le (a : Rat) (k : Nat) : ratBits (a ^ k) ≤ max 1 (ratBits a * k) := by
  have le_of_part : ∀ n, bitLength n ≤ ratBits a → bitLength (n ^ k) ≤ max 1 (ratBits a * k) := by
    intro n part
    have scaled := Nat.mul_le_mul_right k part
    have power := bitLength_pow_le n k
    omega
  rw [ratBits, natAbs_num_pow, Rat.den_pow]
  exact Nat.max_le.mpr ⟨le_of_part _ (Nat.le_max_left _ _), le_of_part _ (Nat.le_max_right _ _)⟩

/-- Numerator and denominator change places. -/
theorem ratBits_inv (a : Rat) : ratBits a⁻¹ = ratBits a := by
  by_cases zero : a = 0
  · rw [zero, inv_zero]
  · have numerator : a.num ≠ 0 := Rat.num_ne_zero.mpr zero
    have sign : a.num.sign.natAbs = 1 := Int.natAbs_sign_of_ne_zero numerator
    rw [ratBits, Rat.num_inv, Rat.den_inv, if_neg numerator, Int.natAbs_mul, sign, Nat.one_mul,
      Int.natAbs_natCast, Nat.max_comm, ratBits]

theorem ratBits_zpow_le (a : Rat) (n : Int) : ratBits (a ^ n) ≤ max 1 (ratBits a * n.natAbs) := by
  obtain ⟨k, rfl | rfl⟩ := n.eq_nat_or_neg
  · rw [Rat.zpow_natCast, Int.natAbs_natCast]
    exact ratBits_pow_le a k
  · rw [Rat.zpow_neg, Rat.zpow_natCast, ratBits_inv, Int.natAbs_neg, Int.natAbs_natCast]
    exact ratBits_pow_le a k

/-! ## Exact powers -/

namespace Value

theorem power_of_zero {b : Rat} (negative : b < 0) :
    power (.exact 0) (.exact b) = .error .zeroToNegative := by
  rw [power, if_pos (by simp [isZero, isBelowZero, negative])]

/-- A power of exact numbers that is exact is the power itself, to a whole exponent, and neither its
numerator nor its denominator has more than 8192 bits; zero has no power to a negative exponent,
whole or not. -/
theorem exact_power_bounded (a b : Rat) :
    (∀ q, power (.exact a) (.exact b) = .ok (.exact q) →
      (∃ n : Int, b = n ∧ q = a ^ n) ∧
        bitLength q.num.natAbs ≤ 8192 ∧ bitLength q.den ≤ 8192) ∧
    (∀ n : Int, b = n → ¬ (a = 0 ∧ b < 0) →
      (power (.exact a) (.exact b) = .ok (.exact (a ^ n)) ↔ ratBits a * n.natAbs ≤ 8192)) ∧
    (a = 0 → b < 0 → ∃ e, power (.exact a) (.exact b) = .error e ∧ e.family = .zeroDivision) := by
  refine ⟨fun q powered => ?_, fun n whole defined => ?_, fun zero negative => ?_⟩
  · obtain ⟨-, n, whole, within, rfl⟩ := power_eq_exact_iff.mp powered
    have bounded := ratBits_zpow_le a n
    rw [exactPowerBits] at within
    have numerator : bitLength (a ^ n).num.natAbs ≤ ratBits (a ^ n) := Nat.le_max_left _ _
    have denominator : bitLength (a ^ n).den ≤ ratBits (a ^ n) := Nat.le_max_right _ _
    exact ⟨⟨n, whole, rfl⟩, by omega, by omega⟩
  · subst whole
    rw [power_eq_exact_iff]
    constructor
    · rintro ⟨-, m, same, within, -⟩
      rwa [← Rat.intCast_inj.mp same] at within
    · exact fun within => ⟨defined, n, rfl, within, rfl⟩
  · subst zero
    exact ⟨_, power_of_zero negative, rfl⟩

/-- The estimate for the power of minus three halves to minus 4096 reaches the bound. -/
example : ratBits (-3 / 2) * (-4096 : Int).natAbs = 8192 := by decide +kernel

end Value

end FormulaEditor
