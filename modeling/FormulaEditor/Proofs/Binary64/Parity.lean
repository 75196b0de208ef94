import Mathlib.Algebra.Order.Ring.Unbundled.Rat
import Mathlib.Algebra.Ring.Int.Parity
import FormulaEditor.Proofs.Binary64.Range

/-! # Signs and parity of rounded numbers

Rounding keeps the sign of a number.  A whole number below `2 ^ 53` in magnitude is kept as it is,
and a greater one becomes even: the exponent of its mantissa is above zero.
-/

namespace FormulaEditor.Binary64

/-! ## Signs -/

theorem exists_normalized_eq {negative : Bool} {mantissa : Nat} {exponent : Int}
    (finite : (normalized negative mantissa exponent).isFinite = true) :
    ∃ m e, normalized negative mantissa exponent = .finite negative m e := by
  rw [normalized] at finite ⊢
  split <;> split <;> simp_all [isFinite]

theorem exists_nearest_eq {negative : Bool} {num den : Nat}
    (finite : (nearest negative num den).isFinite = true) :
    ∃ m e, nearest negative num den = .finite negative m e := by
  rw [nearest] at finite ⊢
  split at finite
  · next zero => exact ⟨0, leastExponent, if_pos zero⟩
  · next nonzero =>
    rw [if_neg nonzero]
    exact exists_normalized_eq finite

/-- Rounding keeps the sign. -/
theorem exists_ofRat_eq {q : Rat} (finite : (ofRat q).isFinite = true) :
    ∃ m e, ofRat q = .finite (decide (q < 0)) m e := by
  have sign : decide (q < 0) = decide (q.num < 0) := by simp only [Rat.num_neg]
  rw [sign]
  exact exists_nearest_eq finite

/-- The sign of a finite number is the sign of its rational. -/
theorem toRat?_sign {negative : Bool} {mantissa : Nat} {exponent : Int} {q : Rat}
    (value : toRat? (.finite negative mantissa exponent) = some q) :
    if negative then q ≤ 0 else 0 ≤ q := by
  rw [toRat?, Option.some.injEq] at value
  subst value
  have magnitude : 0 ≤ mkRat ((mantissa * powerNum 2 exponent : Nat) : Int) (powerDen 2 exponent) :=
    Rat.mkRat_nonneg (Int.natCast_nonneg _) _
  cases negative with
  | false => exact magnitude
  | true =>
    change mkRat (-_) _ ≤ 0
    rw [← Rat.neg_mkRat]
    exact neg_nonpos.mpr magnitude

/-! ## Parity -/

theorem binaryExponent_one {n : Nat} (nonzero : n ≠ 0) : binaryExponent n 1 = n.log2 := by
  have atLeast := le_binaryExponent (Nat.log2_self_le nonzero)
  have atMost : binaryExponent n 1 ≤ n.log2 := by
    have one : Nat.log2 1 = 0 := by decide
    rw [binaryExponent, one]
    split <;> omega
  exact Int.le_antisymm atMost atLeast

theorem powerDen_log2 {n : Nat} (bits : n.log2 ≤ 52) :
    powerDen 2 ((n.log2 : Int) - 52) = 2 ^ (52 - n.log2) := by
  rw [powerDen, show (-((n.log2 : Int) - 52)).toNat = 52 - n.log2 by omega, Nat.pow_eq]

theorem powerNum_log2 {n : Nat} (bits : n.log2 ≤ 52) : powerNum 2 ((n.log2 : Int) - 52) = 1 := by
  rw [powerNum, show ((n.log2 : Int) - 52).toNat = 0 by omega, Nat.pow_eq, Nat.pow_zero]

/-- A natural below `2 ^ 53` has a mantissa of its own bits, filled up with zeros. -/
theorem nearest_of_lt {n : Nat} (nonzero : n ≠ 0) (bits : n.log2 ≤ 52) (negative : Bool) :
    nearest negative n 1 = .finite negative (n * 2 ^ (52 - n.log2)) ((n.log2 : Int) - 52) := by
  have exponent : max (binaryExponent n 1 - (precision - 1)) leastExponent = n.log2 - 52 := by
    simp only [binaryExponent_one nonzero, precision, leastExponent]
    omega
  have below : n * 2 ^ (52 - n.log2) < mantissaBound :=
    calc n * 2 ^ (52 - n.log2)
        < 2 ^ (n.log2 + 1) * 2 ^ (52 - n.log2) :=
          Nat.mul_lt_mul_of_pos_right Nat.lt_log2_self (Nat.two_pow_pos _)
      _ = 2 ^ 53 := by rw [← Nat.pow_add, show n.log2 + 1 + (52 - n.log2) = 53 by omega]
  have rounded := roundQuotient_mul_right (n * 2 ^ (52 - n.log2)) 1 Nat.one_pos
  rw [Nat.mul_one] at rounded
  rw [nearest, if_neg nonzero, exponent]
  dsimp only
  rw [powerNum_log2 bits, powerDen_log2 bits, Nat.mul_one, rounded, normalized,
    if_neg (Nat.ne_of_lt below), if_pos (by simp only [greatestExponent]; omega)]

theorem isOdd_normalized_of_pos {negative : Bool} {mantissa : Nat} {exponent : Int}
    (positive : 0 < exponent) : (normalized negative mantissa exponent).isOdd = false := by
  rw [normalized]
  split
  · split
    · exact if_pos (by omega)
    · rfl
  · split
    · exact if_pos positive
    · rfl

/-- A whole number is odd after rounding just if it was odd and is below `2 ^ 53`. -/
theorem isOdd_ofRat_iff (n : Int) : (ofRat n).isOdd = true ↔ Odd n ∧ n.natAbs < 2 ^ 53 := by
  rw [ofRat, Rat.num_intCast, Rat.den_intCast, ← Int.natAbs_odd, Nat.odd_iff]
  by_cases nonzero : n.natAbs = 0
  · rw [nearest, if_pos nonzero, nonzero]
    simp [zero, isOdd, leastExponent]
  by_cases small : n.natAbs < 2 ^ 53
  · have bits : n.natAbs.log2 ≤ 52 := Nat.le_of_lt_succ ((Nat.log2_lt nonzero).mpr small)
    rw [nearest_of_lt nonzero bits, isOdd, if_neg (by omega), powerDen_log2 bits,
      Nat.mul_mod_left, Nat.mul_div_cancel _ (Nat.two_pow_pos _)]
    simpa using fun _ => small
  · have exponent := le_binaryExponent (Nat.not_lt.mp small)
    rw [nearest, if_neg nonzero]
    dsimp only
    rw [isOdd_normalized_of_pos (by simp only [precision, leastExponent]; omega)]
    exact iff_of_false Bool.false_ne_true fun below => small below.2

theorem isOdd_ofRat_of_even {n : Int} (even : Even n) : (ofRat n).isOdd = false := by
  rw [← Bool.not_eq_true, isOdd_ofRat_iff]
  exact fun odd => Int.not_odd_iff_even.mpr even odd.1

theorem isOdd_ofRat_of_le {n : Int} (large : 2 ^ 53 ≤ n.natAbs) : (ofRat n).isOdd = false := by
  rw [← Bool.not_eq_true, isOdd_ofRat_iff]
  exact fun odd => Nat.not_lt.mpr large odd.2

end FormulaEditor.Binary64
