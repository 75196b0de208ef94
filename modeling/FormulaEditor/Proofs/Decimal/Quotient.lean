import Mathlib.Data.Int.Log
import Mathlib.Data.Rat.Floor
import Mathlib.Algebra.Order.Field.Power
import Mathlib.Algebra.Order.Floor.Semifield
import Mathlib.Tactic.FieldSimp
import Mathlib.Tactic.Linarith
import Mathlib.Tactic.Positivity
import FormulaEditor.Decimal.Quotient

/-! # Quotients as rationals

The quotient of two naturals is rounded to a natural that is no further from it than one half.  Its
exponents are the logarithms of the rational that it is: the binary one always, the decimal one as
long as the estimate that it starts from is close enough.
-/

namespace FormulaEditor

/-! ## Powers -/

section Powers

variable {base : Nat}

theorem powerNum_pos (positive : 0 < base) (k : Int) : 0 < powerNum base k := Nat.pow_pos positive

theorem powerDen_pos (positive : 0 < base) (k : Int) : 0 < powerDen base k := Nat.pow_pos positive

theorem powerNum_div_powerDen (positive : 0 < base) (k : Int) :
    (powerNum base k : ℚ) / powerDen base k = (base : ℚ) ^ k := by
  have nonzero : (base : ℚ) ≠ 0 := Nat.cast_ne_zero.mpr (Nat.ne_of_gt positive)
  rw [powerNum, powerDen, Nat.pow_eq, Nat.pow_eq, Nat.cast_pow, Nat.cast_pow, ← zpow_natCast,
    ← zpow_natCast, ← zpow_sub₀ nonzero]
  congr 1
  omega

variable {num den : Nat}

theorem reachesPower_iff (positive : 0 < base) (nonzero : 0 < den) (k : Int) :
    reachesPower base num den k = true ↔ (base : ℚ) ^ k ≤ num / den := by
  have bottom : (0 : ℚ) < powerDen base k := by exact_mod_cast powerDen_pos positive k
  have divisor : (0 : ℚ) < den := by exact_mod_cast nonzero
  rw [reachesPower, decide_eq_true_iff, ← powerNum_div_powerDen positive,
    div_le_div_iff₀ bottom divisor, mul_comm]
  exact_mod_cast Iff.rfl

end Powers

/-! ## Rounding -/

section Rounding

variable {num den n : Nat}

theorem roundQuotient_of_near (positive : 0 < den) (low : 2 * (den * n) ≤ 2 * num + den)
    (high : 2 * num ≤ 2 * (den * n) + den)
    (tie : 2 * (den * n) = 2 * num + den ∨ 2 * num = 2 * (den * n) + den → n % 2 = 0) :
    roundQuotient num den = n := by
  have parts := Nat.div_add_mod num den
  have rest := Nat.mod_lt num positive
  have notBelow : num / den ≤ n := by
    by_contra less
    have := Nat.mul_le_mul_left den (Nat.not_le.mp less)
    rw [Nat.mul_succ] at this
    omega
  have notAbove : n ≤ num / den + 1 := by
    by_contra greater
    have := Nat.mul_le_mul_left den (Nat.not_le.mp greater)
    rw [Nat.mul_succ, Nat.mul_succ] at this
    omega
  -- Only the two neighbours of the quotient are left; the remainder decides between them.
  obtain rfl | rfl : n = num / den ∨ n = num / den + 1 := by omega
  · rw [roundQuotient]
    repeat' split
    all_goals omega
  · rw [Nat.mul_succ] at low high tie
    rw [roundQuotient]
    repeat' split
    all_goals omega

/-- What a quotient is rounded to is known by its distance. -/
theorem roundQuotient_eq_of_abs (positive : 0 < den) (near : |(num / den : ℚ) - n| ≤ 1 / 2)
    (tie : |(num / den : ℚ) - n| = 1 / 2 → n % 2 = 0) : roundQuotient num den = n := by
  have divisor : (0 : ℚ) < den := by exact_mod_cast positive
  have product : (num / den : ℚ) * den = num := div_mul_cancel₀ _ divisor.ne'
  generalize (num / den : ℚ) = q at near tie product
  obtain ⟨low, high⟩ := abs_le.mp near
  have low : (den : ℚ) * (n - q) ≤ den * (1 / 2) := by gcongr; linarith
  have high : (den : ℚ) * (q - n) ≤ den * (1 / 2) := by gcongr
  apply roundQuotient_of_near positive
  · have : (2 * (den * n) : ℚ) ≤ 2 * num + den := by linarith
    exact_mod_cast this
  · have : (2 * num : ℚ) ≤ 2 * (den * n) + den := by linarith
    exact_mod_cast this
  · intro equal
    apply tie
    have equal : (2 * (den * n) : ℚ) = 2 * num + den ∨ (2 * num : ℚ) = 2 * (den * n) + den := by
      exact_mod_cast equal
    rw [abs_eq (by norm_num)]
    rcases equal with below | above
    · exact .inr (mul_left_cancel₀ divisor.ne' (by linarith))
    · exact .inl (mul_left_cancel₀ divisor.ne' (by linarith))

theorem le_roundQuotient (positive : 0 < den) (atLeast : (n : ℚ) ≤ num / den) :
    n ≤ roundQuotient num den := by
  rw [le_div_iff₀ (by exact_mod_cast positive)] at atLeast
  have whole : n ≤ num / den := (Nat.le_div_iff_mul_le positive).mpr (by exact_mod_cast atLeast)
  have rounded := roundQuotient_eq num den
  omega

theorem roundQuotient_le (positive : 0 < den) (below : (num / den : ℚ) < n) :
    roundQuotient num den ≤ n := by
  rw [div_lt_iff₀ (by exact_mod_cast positive)] at below
  have whole : num / den < n := (Nat.div_lt_iff_lt_mul positive).mpr (by exact_mod_cast below)
  have rounded := roundQuotient_eq num den
  omega

end Rounding

/-! ## Exponents -/

section Exponents

/-- A logarithm is known by the powers around it. -/
theorem log_eq {base : Nat} (large : 1 < base) {q : ℚ} {k : Int} (atLeast : (base : ℚ) ^ k ≤ q)
    (below : q < (base : ℚ) ^ (k + 1)) : Int.log base q = k := by
  have positive : 0 < q :=
    lt_of_lt_of_le (zpow_pos (by exact_mod_cast Nat.zero_lt_of_lt large) k) atLeast
  have lower := (Int.zpow_le_iff_le_log large positive).mp atLeast
  have upper := (Int.lt_zpow_iff_log_lt large positive).mp below
  omega

theorem log_mul_zpow {base : Nat} (large : 1 < base) {q : ℚ} (positive : 0 < q) (k : Int) :
    Int.log base (q * (base : ℚ) ^ k) = Int.log base q + k := by
  have nonzero : (base : ℚ) ≠ 0 := Nat.cast_ne_zero.mpr (Nat.ne_of_gt (Nat.zero_lt_of_lt large))
  have factor : (0 : ℚ) < (base : ℚ) ^ k :=
    zpow_pos (by exact_mod_cast Nat.zero_lt_of_lt large) k
  apply log_eq large
  · rw [zpow_add₀ nonzero]
    exact mul_le_mul_of_nonneg_right (Int.zpow_log_le_self large positive) factor.le
  · rw [Int.add_right_comm, zpow_add₀ nonzero]
    exact mul_lt_mul_of_pos_right (Int.lt_zpow_succ_log_self large q) factor

variable {num den : Nat}

/-- The bits of two naturals give the bits of their quotient up to one. -/
theorem quotient_bits (top : num ≠ 0) (bottom : den ≠ 0) :
    (2 : ℚ) ^ ((num.log2 : Int) - den.log2 - 1) < num / den ∧
      (num / den : ℚ) < (2 : ℚ) ^ ((num.log2 : Int) - den.log2 + 1) := by
  have bits {n : Nat} (nonzero : n ≠ 0) :
      (2 : ℚ) ^ (n.log2 : Int) ≤ n ∧ (n : ℚ) < 2 ^ ((n.log2 : Int) + 1) := by
    rw [← Nat.cast_succ, zpow_natCast, zpow_natCast]
    exact ⟨by exact_mod_cast Nat.log2_self_le nonzero, by exact_mod_cast Nat.lt_log2_self⟩
  obtain ⟨topLow, topHigh⟩ := bits top
  obtain ⟨bottomLow, bottomHigh⟩ := bits bottom
  have positive : (0 : ℚ) < den := by exact_mod_cast Nat.pos_of_ne_zero bottom
  have two : (2 : ℚ) ≠ 0 := by decide
  constructor
  · rw [lt_div_iff₀ positive]
    calc (2 : ℚ) ^ ((num.log2 : Int) - den.log2 - 1) * den
        < 2 ^ ((num.log2 : Int) - den.log2 - 1) * 2 ^ ((den.log2 : Int) + 1) := by gcongr
      _ = 2 ^ (num.log2 : Int) := by rw [← zpow_add₀ two]; congr 1; omega
      _ ≤ num := topLow
  · rw [div_lt_iff₀ positive]
    calc (num : ℚ)
        < 2 ^ ((num.log2 : Int) + 1) := topHigh
      _ = 2 ^ ((num.log2 : Int) - den.log2 + 1) * 2 ^ (den.log2 : Int) := by
          rw [← zpow_add₀ two]; congr 1; omega
      _ ≤ 2 ^ ((num.log2 : Int) - den.log2 + 1) * den := by gcongr

theorem binaryExponent_eq_log (top : num ≠ 0) (bottom : den ≠ 0) :
    binaryExponent num den = Int.log 2 (num / den : ℚ) := by
  obtain ⟨low, high⟩ := quotient_bits top bottom
  have reached (k : Int) : reachesPower 2 num den k = true ↔ (2 : ℚ) ^ k ≤ num / den :=
    reachesPower_iff (by decide) (Nat.pos_of_ne_zero bottom) k
  rw [binaryExponent]
  split
  · next above => exact (log_eq (by decide) ((reached _).mp above) high).symm
  · next below =>
    rw [reached, not_le] at below
    refine (log_eq (by decide) low.le ?_).symm
    rwa [Int.sub_add_cancel]

/-! ### Decimal exponents -/

/-- Numbers that differ by a factor of two at most have powers that differ by as many. -/
theorem zpow_close {x y : ℚ} {steps : Nat} (positive : 0 < x) (atLeast : x ≤ y)
    (atMost : y ≤ 2 * x) {t : Int} (few : t.natAbs ≤ steps) :
    y ^ t ≤ 2 ^ steps * x ^ t ∧ x ^ t ≤ 2 ^ steps * y ^ t := by
  have factor : (2 : ℚ) ^ t.natAbs ≤ 2 ^ steps := pow_le_pow_right₀ (by norm_num) few
  have one : (1 : ℚ) ≤ 2 ^ steps := one_le_pow₀ (by norm_num)
  have increases (n : Nat) : x ^ n ≤ y ^ n := pow_le_pow_left₀ positive.le atLeast n
  have doubles (n : Nat) : y ^ n ≤ 2 ^ n * x ^ n := by
    rw [← mul_pow]
    exact pow_le_pow_left₀ (positive.le.trans atLeast) atMost n
  have above : 0 < y := lt_of_lt_of_le positive atLeast
  obtain ⟨n, rfl | rfl⟩ := t.eq_nat_or_neg
  · rw [Int.natAbs_natCast] at factor
    rw [zpow_natCast, zpow_natCast]
    exact ⟨(doubles n).trans (by gcongr),
      (increases n).trans (le_mul_of_one_le_left (by positivity) one)⟩
  · rw [Int.natAbs_neg, Int.natAbs_natCast] at factor
    rw [zpow_neg, zpow_neg, zpow_natCast, zpow_natCast]
    constructor
    · exact (inv_anti₀ (by positivity) (increases n)).trans
        (le_mul_of_one_le_left (by positivity) one)
    · rw [← div_eq_mul_inv, le_div_iff₀ (by positivity), inv_mul_le_iff₀ (by positivity), mul_comm]
      exact (doubles n).trans (by gcongr)

/-- A fraction that is close to the logarithm of two gives the powers of ten around a power of
two. -/
theorem powers_around {M N : Nat} (nonzero : N ≠ 0) (atLeast : (2 : ℚ) ^ N ≤ 10 ^ M)
    (atMost : (10 : ℚ) ^ M ≤ 2 * 2 ^ N) {t k : Int} (few : t.natAbs ≤ N) (low : N * k ≤ M * t)
    (high : M * t ≤ N * (k + 1)) :
    (10 : ℚ) ^ (k - 1) ≤ 2 ^ t ∧ (2 : ℚ) ^ (t + 2) ≤ 10 ^ (k + 2) := by
  have ten : (10 : ℚ) ≠ 0 := by norm_num
  have two : (2 : ℚ) ≠ 0 := by norm_num
  have exchanged (b : ℚ) (n : Nat) (e : Int) : (b ^ n) ^ e = b ^ (n * e : Int) := by
    rw [zpow_mul, zpow_natCast]
  have raised (b : ℚ) (e : Int) : (b ^ e) ^ N = b ^ (N * e : Int) := by
    rw [mul_comm, zpow_mul, zpow_natCast]
  -- The sides are compared by their powers with the exponent `N`, where `M * t` can be used.
  obtain ⟨tens, twos⟩ := zpow_close (by positivity) atLeast atMost few
  rw [exchanged, exchanged] at tens twos
  constructor
  · rw [← pow_le_pow_iff_left₀ (by positivity) (by positivity) nonzero, raised, raised]
    calc (10 : ℚ) ^ (N * (k - 1) : Int)
        ≤ 10 ^ (M * t - N : Int) := zpow_le_zpow_right₀ (by norm_num) (by linarith)
      _ = 10 ^ (M * t : Int) / 10 ^ N := by rw [zpow_sub₀ ten, zpow_natCast]
      _ ≤ 2 ^ N * 2 ^ (N * t : Int) / 10 ^ N := by gcongr
      _ ≤ 10 ^ N * 2 ^ (N * t : Int) / 10 ^ N := by gcongr; norm_num
      _ = 2 ^ (N * t : Int) := mul_div_cancel_left₀ _ (by positivity)
  · rw [← pow_le_pow_iff_left₀ (by positivity) (by positivity) nonzero, raised, raised]
    calc (2 : ℚ) ^ (N * (t + 2) : Int)
        = 2 ^ (N * t : Int) * 4 ^ N := by
          rw [mul_add, zpow_add₀ two, mul_comm (N : Int) 2, zpow_mul _ 2, zpow_natCast]
          norm_num
      _ ≤ 2 ^ N * 10 ^ (M * t : Int) * 4 ^ N := by gcongr
      _ = 8 ^ N * 10 ^ (M * t : Int) := by
          rw [mul_right_comm, ← mul_pow]
          norm_num
      _ ≤ 10 ^ N * 10 ^ (N * (k + 1) : Int) := by
          gcongr
          · norm_num
          · norm_num
      _ = 10 ^ (N * (k + 2) : Int) := by
          rw [← zpow_natCast, ← zpow_add₀ ten]
          congr 1
          ring

theorem two_pow_le_ten_pow : (2 : ℚ) ^ 100000 ≤ 10 ^ 30103 := by
  have small : 2 ^ 100000 ≤ 10 ^ 30103 := by decide +kernel
  exact_mod_cast small

theorem ten_pow_le_two_pow : (10 : ℚ) ^ 30103 ≤ 2 * 2 ^ 100000 := by
  have small : 10 ^ 30103 ≤ 2 * 2 ^ 100000 := by decide +kernel
  exact_mod_cast small

/-- The estimate holds for all quotients that are not extremely large or small. -/
theorem decimalExponent_eq_log (top : num ≠ 0) (bottom : den ≠ 0)
    (moderate : (Int.log 2 (num / den : ℚ)).natAbs < 100000) :
    decimalExponent num den = Int.log 10 (num / den : ℚ) := by
  obtain ⟨lower, upper⟩ := quotient_bits top bottom
  have positive : (0 : ℚ) < num / den := (zpow_pos (by norm_num) _).trans lower
  have least := (Int.zpow_le_iff_le_log (b := 2) (by decide) positive).mp lower.le
  have most := (Int.lt_zpow_iff_log_lt (b := 2) (by decide) positive).mp upper
  have reached (k : Int) : reachesPower 10 num den k = true ↔ (10 : ℚ) ^ k ≤ num / den :=
    reachesPower_iff (by decide) (Nat.pos_of_ne_zero bottom) k
  rw [decimalExponent, Int.fdiv_eq_ediv_of_nonneg _ (by decide)]
  generalize bits : (num.log2 : Int) - den.log2 - 1 = t at *
  have around := powers_around (by decide) two_pow_le_ten_pow ten_pow_le_two_pow (t := t)
    (k := t * 30103 / 100000) (by omega) (by omega) (by omega)
  rw [show (num.log2 : Int) - den.log2 + 1 = t + 2 by omega] at upper
  -- The estimate is the logarithm, or one above it or below it.
  generalize t * 30103 / 100000 = k at around ⊢
  split
  · next above =>
    refine (log_eq (by decide) ((reached _).mp above) ?_).symm
    rw [Int.add_assoc]
    exact upper.trans_le around.2
  · next below =>
    rw [reached, not_le] at below
    split
    · next above => exact (log_eq (by decide) ((reached _).mp above) below).symm
    · next below =>
      rw [reached, not_le] at below
      refine (log_eq (by decide) (around.1.trans lower.le) ?_).symm
      rwa [Int.sub_add_cancel]

end Exponents

end FormulaEditor
