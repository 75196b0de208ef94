import FormulaEditor.Binary64.Basic
import FormulaEditor.Proofs.Decimal.Quotient

/-! # What is rounded to a binary number

The rationals that are rounded to a number lie around it, no further away than half of the distance
to its neighbours.  All numbers that rounding gives are in canonical form.
-/

namespace FormulaEditor.Binary64

/-! ## The rationals around a number -/

/-- How far below a mantissa a rational may be, in units of its last place.  The neighbour below a
power of two is half as far away as others. -/
def marginBelow (mantissa : Nat) (exponent : Int) : ℚ :=
  if mantissa = fullMantissa ∧ leastExponent < exponent then 1 / 4 else 1 / 2

/-- The rational is so near to the positive number `mantissa * 2 ^ exponent` that it is rounded to
it.  In the middle between two numbers it must be rounded to the even one. -/
structure RoundsTo (mantissa : Nat) (exponent : Int) (q : ℚ) : Prop where
  low : mantissa - marginBelow mantissa exponent ≤ q / 2 ^ exponent
  high : q / 2 ^ exponent ≤ mantissa + 1 / 2
  tie : q / 2 ^ exponent = mantissa - marginBelow mantissa exponent ∨
    q / 2 ^ exponent = mantissa + 1 / 2 → mantissa % 2 = 0

section

variable {mantissa : Nat} {exponent : Int} {negative : Bool}

theorem marginBelow_le (mantissa : Nat) (exponent : Int) :
    marginBelow mantissa exponent ≤ 1 / 2 := by
  rw [marginBelow]
  split <;> norm_num

theorem marginBelow_pos (mantissa : Nat) (exponent : Int) : 0 < marginBelow mantissa exponent := by
  rw [marginBelow]
  split <;> norm_num

theorem RoundsTo.pos {q : ℚ} (near : RoundsTo mantissa exponent q) (nonzero : mantissa ≠ 0) :
    0 < q := by
  have least : (1 : ℚ) ≤ mantissa := by exact_mod_cast Nat.one_le_iff_ne_zero.mpr nonzero
  have margin := marginBelow_le mantissa exponent
  have scaled : 0 < q / 2 ^ exponent := by linarith [near.low]
  exact (div_pos_iff_of_pos_right (by positivity)).mp scaled

theorem cast_mantissa_le (canonical : (finite negative mantissa exponent).IsCanonical) :
    (mantissa + 1 : ℚ) ≤ 9007199254740992 := by
  exact_mod_cast canonical.1

/-- The rationals around finite numbers are of moderate size. -/
theorem RoundsTo.range {q : ℚ} (near : RoundsTo mantissa exponent q) (nonzero : mantissa ≠ 0)
    (canonical : (finite negative mantissa exponent).IsCanonical) :
    (2 : ℚ) ^ (-1075 : Int) ≤ q ∧ q < 2 ^ (1024 : Int) := by
  have fits := cast_mantissa_le canonical
  obtain ⟨-, least, greatest, -⟩ := canonical
  have unit : (0 : ℚ) < 2 ^ exponent := by positivity
  have margin := marginBelow_le mantissa exponent
  have positive : (1 : ℚ) ≤ mantissa := by exact_mod_cast Nat.one_le_iff_ne_zero.mpr nonzero
  have low : (2 : ℚ) ^ (-1 : Int) ≤ q / 2 ^ exponent := by
    norm_num
    linarith [near.low]
  have high : q / 2 ^ exponent < 2 ^ (53 : Int) := by
    norm_num
    linarith [near.high]
  rw [le_div_iff₀ unit, ← zpow_add₀ (by norm_num)] at low
  rw [div_lt_iff₀ unit, ← zpow_add₀ (by norm_num)] at high
  rw [leastExponent] at least
  rw [greatestExponent] at greatest
  exact ⟨(zpow_le_zpow_right₀ (by norm_num) (by omega)).trans low,
    high.trans_le (zpow_le_zpow_right₀ (by norm_num) (by omega))⟩

theorem RoundsTo.self (mantissa : Nat) (exponent : Int) :
    RoundsTo mantissa exponent (mantissa * 2 ^ exponent) := by
  have margin := marginBelow_pos mantissa exponent
  have scaled : (mantissa * 2 ^ exponent / 2 ^ exponent : ℚ) = mantissa :=
    mul_div_cancel_right₀ _ (by positivity)
  refine ⟨?_, ?_, ?_⟩ <;> rw [scaled]
  · linarith
  · linarith
  · rintro (tie | tie) <;> linarith

/-! ## Rounding -/

variable {num den : Nat}

theorem scaled_quotient (num den : Nat) (e : Int) :
    ((num * powerDen 2 e : Nat) : ℚ) / ((den * powerNum 2 e : Nat) : ℚ) = num / den / 2 ^ e := by
  have two : ((2 : Nat) : ℚ) = 2 := rfl
  rw [← two, ← powerNum_div_powerDen (by decide), Nat.cast_mul, Nat.cast_mul, div_div_eq_mul_div,
    mul_comm (den : ℚ), ← div_div, mul_div_right_comm]
  ring

theorem zpow_le_scaled_iff {q : ℚ} (positive : 0 < q) {k e : Int} :
    (2 : ℚ) ^ k ≤ q / 2 ^ e ↔ k + e ≤ Int.log 2 q := by
  rw [le_div_iff₀ (by positivity), ← zpow_add₀ (by norm_num)]
  exact Int.zpow_le_iff_le_log (b := 2) (by decide) positive

/-- The exponent that a positive quotient is rounded with. -/
def roundingExponent (q : ℚ) : Int := max (Int.log 2 q - (precision - 1)) leastExponent

/-- The mantissa that a quotient is rounded to with an exponent. -/
def roundedMantissa (num den : Nat) (e : Int) : Nat :=
  roundQuotient (num * powerDen 2 e) (den * powerNum 2 e)

theorem nearest_eq (top : num ≠ 0) (bottom : den ≠ 0) (negative : Bool) :
    nearest negative num den =
      normalized negative (roundedMantissa num den (roundingExponent (num / den)))
        (roundingExponent (num / den)) := by
  rw [nearest, if_neg top, binaryExponent_eq_log top bottom]
  rfl

theorem roundedMantissa_eq (bottom : den ≠ 0) {e : Int}
    (near : |(num / den / 2 ^ e : ℚ) - mantissa| ≤ 1 / 2)
    (tie : |(num / den / 2 ^ e : ℚ) - mantissa| = 1 / 2 → mantissa % 2 = 0) :
    roundedMantissa num den e = mantissa := by
  rw [← scaled_quotient] at near tie
  exact roundQuotient_eq_of_abs
    (Nat.mul_pos (Nat.pos_of_ne_zero bottom) (powerNum_pos (by decide) e)) near tie

/-! ### Canonical forms -/

instance : DecidablePred IsCanonical
  | .nan | .infinity _ => .isTrue trivial
  | .finite _ mantissa exponent =>
    inferInstanceAs (Decidable (mantissa < mantissaBound ∧ leastExponent ≤ exponent ∧
      exponent ≤ greatestExponent ∧ (fullMantissa ≤ mantissa ∨ exponent = leastExponent)))

theorem fullMantissa_cast : (fullMantissa : ℚ) = 2 ^ (52 : Int) := by norm_num [fullMantissa]

theorem mantissaBound_cast : (mantissaBound : ℚ) = 2 ^ (53 : Int) := by norm_num [mantissaBound]

/-- The mantissa of a quotient has at most one bit too many, and as many as it must have unless the
exponent is the least. -/
theorem roundedMantissa_bounds (top : num ≠ 0) (bottom : den ≠ 0) {e : Int}
    (rounds : roundingExponent (num / den) = e) :
    roundedMantissa num den e ≤ mantissaBound ∧
      (fullMantissa ≤ roundedMantissa num den e ∨ e = leastExponent) := by
  have positive : (0 : ℚ) < num / den := by
    have top : (0 : ℚ) < num := by exact_mod_cast Nat.pos_of_ne_zero top
    have bottom : (0 : ℚ) < den := by exact_mod_cast Nat.pos_of_ne_zero bottom
    exact div_pos top bottom
  have divisor : 0 < den * powerNum 2 e :=
    Nat.mul_pos (Nat.pos_of_ne_zero bottom) (powerNum_pos (by decide) e)
  have reaches (k : Int) := zpow_le_scaled_iff positive (k := k) (e := e)
  rw [← scaled_quotient] at reaches
  rw [roundingExponent] at rounds
  constructor
  · apply roundQuotient_le divisor
    rw [mantissaBound_cast, ← not_le, reaches]
    simp only [precision] at rounds
    omega
  · by_cases least : e = leastExponent
    · exact .inr least
    · refine .inl (le_roundQuotient divisor ?_)
      rw [fullMantissa_cast, reaches]
      simp only [precision] at rounds
      omega

theorem isCanonical_zero (negative : Bool) : (zero negative).IsCanonical :=
  ⟨by decide, by decide, by decide, .inr rfl⟩

theorem isCanonical_normalized {m : Nat} {e : Int} (fits : m ≤ mantissaBound)
    (leading : fullMantissa ≤ m ∨ e = leastExponent) (large : leastExponent ≤ e)
    (negative : Bool) : (normalized negative m e).IsCanonical := by
  rw [normalized]
  split
  · split
    · exact ⟨by decide, by omega, by omega, .inl (Nat.le_refl _)⟩
    · trivial
  · split
    · exact ⟨by omega, large, by omega, leading⟩
    · trivial

/-- Rounding gives canonical numbers. -/
theorem isCanonical_nearest (negative : Bool) (num : Nat) (bottom : den ≠ 0) :
    (nearest negative num den).IsCanonical := by
  by_cases top : num = 0
  · rw [nearest, if_pos top]
    exact isCanonical_zero negative
  · obtain ⟨fits, leading⟩ := roundedMantissa_bounds top bottom rfl
    rw [nearest_eq top bottom]
    exact isCanonical_normalized fits leading (le_max_right _ _) negative

/-! ### Nearest numbers -/

/-- The exponent of the number that a rational is rounded to.  It is one too small if the rational
is below a power of two and rounded up to it. -/
theorem roundingExponent_of_roundsTo {q : ℚ} (nonzero : mantissa ≠ 0)
    (canonical : (finite negative mantissa exponent).IsCanonical)
    (near : RoundsTo mantissa exponent q) :
    roundingExponent q = exponent ∨
      (mantissa = fullMantissa ∧ leastExponent < exponent ∧ q / 2 ^ exponent < fullMantissa ∧
        roundingExponent q = exponent - 1) := by
  have fits := cast_mantissa_le canonical
  obtain ⟨-, least, -, leading⟩ := canonical
  have reaches (k : Int) := zpow_le_scaled_iff (near.pos nonzero) (k := k) (e := exponent)
  have margin := marginBelow_le mantissa exponent
  have full := fullMantissa_cast
  have high := near.high
  have low := near.low
  simp only [roundingExponent, precision]
  have small : q / 2 ^ exponent < 2 ^ (53 : Int) := by
    norm_num
    linarith
  rw [← not_le, reaches] at small
  -- A rational with fewer bits than the mantissa has is subnormal, or it is rounded up to a power
  -- of two.
  by_cases below : q / 2 ^ exponent < 2 ^ (52 : Int)
  · have binade := below
    rw [← not_le, reaches] at binade
    by_cases subnormal : exponent = leastExponent
    · exact .inl (by omega)
    · have normal := leading.resolve_right subnormal
      have power : mantissa = fullMantissa := by
        refine Nat.le_antisymm (Nat.not_lt.mp fun larger => ?_) normal
        have larger : (fullMantissa + 1 : ℚ) ≤ mantissa := by exact_mod_cast larger
        linarith
      have close : (2 : ℚ) ^ (51 : Int) ≤ q / 2 ^ exponent := by
        rw [power] at margin low
        rw [full] at low
        norm_num at low ⊢
        linarith
      rw [reaches] at close
      refine .inr ⟨power, by omega, by rwa [full], by omega⟩
  · rw [not_lt, reaches] at below
    exact .inl (by omega)

/-- A quotient is rounded to the canonical number that it is near to. -/
theorem nearest_of_roundsTo (nonzero : mantissa ≠ 0) (bottom : den ≠ 0)
    (canonical : (finite negative mantissa exponent).IsCanonical)
    (near : RoundsTo mantissa exponent (num / den)) :
    nearest negative num den = finite negative mantissa exponent := by
  have top : num ≠ 0 := by
    rintro rfl
    simpa using near.pos nonzero
  have margin := marginBelow_le mantissa exponent
  have low := near.low
  have high := near.high
  have tie := near.tie
  rw [nearest_eq top bottom]
  rcases roundingExponent_of_roundsTo nonzero canonical near with
    same | ⟨power, normal, below, smaller⟩
  · have rounded : roundedMantissa num den exponent = mantissa := by
      apply roundedMantissa_eq bottom
      · rw [abs_le]
        constructor <;> linarith
      · intro middle
        rw [abs_eq (by norm_num)] at middle
        apply tie
        rcases middle with above | under
        · exact .inr (by linarith)
        · exact .inl (by linarith)
    rw [same, rounded, normalized, if_neg (Nat.ne_of_lt canonical.1), if_pos canonical.2.2.1]
  · -- In units half as large the mantissa is rounded to one bit too many, which is carried.
    have narrow : marginBelow mantissa exponent = 1 / 4 := if_pos ⟨power, normal⟩
    have doubled : (num / den / 2 ^ (exponent - 1) : ℚ) = num / den / 2 ^ exponent * 2 := by
      rw [zpow_sub_one₀ (by norm_num)]
      field_simp
    have bound : (mantissaBound : ℚ) = fullMantissa * 2 := by norm_num [mantissaBound, fullMantissa]
    rw [narrow, power] at low
    have rounded : roundedMantissa num den (exponent - 1) = mantissaBound := by
      apply roundedMantissa_eq bottom _ fun _ => rfl
      rw [doubled, bound, abs_le]
      constructor <;> linarith
    have fits : exponent - 1 < greatestExponent := by
      have greatest := canonical.2.2.1
      omega
    rw [smaller, rounded, normalized, if_pos rfl, if_pos fits, power, Int.sub_add_cancel]

end

end FormulaEditor.Binary64
