import Mathlib.Algebra.Group.Nat.Defs
import FormulaEditor.Binary64.Basic

/-! # The range of binary numbers

A whole number of more than 1024 bits is beyond the greatest finite binary number.
-/

namespace FormulaEditor.Binary64

theorem isFinite_normalized_of_lt {negative : Bool} {mantissa : Nat} {exponent : Int}
    (large : greatestExponent < exponent) :
    (normalized negative mantissa exponent).isFinite = false := by
  rw [normalized]
  split
  · rw [if_neg (by omega)]
    rfl
  · rw [if_neg (by omega)]
    rfl

theorem ne_zero_of_two_pow_le {n bits : Nat} (large : 2 ^ bits ≤ n) : n ≠ 0 :=
  Nat.ne_of_gt (Nat.lt_of_lt_of_le (Nat.two_pow_pos bits) large)

theorem le_binaryExponent {n bits : Nat} (large : 2 ^ bits ≤ n) : bits ≤ binaryExponent n 1 := by
  have bits_le : bits ≤ n.log2 := (Nat.le_log2 (ne_zero_of_two_pow_le large)).mpr large
  have one : Nat.log2 1 = 0 := by decide
  have reached : reachesPower 2 n 1 ((n.log2 : Int) - (0 : Nat)) = true := by
    have below : 2 ^ n.log2 ≤ n := Nat.log2_self_le (ne_zero_of_two_pow_le large)
    have toNat : ((n.log2 : Int) - (0 : Nat)).toNat = n.log2 := by omega
    have negated : (-((n.log2 : Int) - (0 : Nat))).toNat = 0 := by omega
    rw [reachesPower, powerNum, powerDen, toNat, negated]
    simpa using below
  rw [binaryExponent, one, if_pos reached]
  omega

/-- A whole number of more than 1024 bits rounds to an infinity. -/
theorem isFinite_ofRat_of_large {n : Int} (large : 2 ^ 1024 ≤ n.natAbs) :
    (ofRat n).isFinite = false := by
  have exponent := le_binaryExponent large
  rw [ofRat, Rat.num_intCast, Rat.den_intCast, nearest, if_neg (ne_zero_of_two_pow_le large)]
  apply isFinite_normalized_of_lt
  simp only [precision, greatestExponent, leastExponent]
  omega

end FormulaEditor.Binary64
