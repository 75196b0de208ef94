import Mathlib.Algebra.Field.Rat
import Mathlib.Algebra.Order.Field.Power
import Mathlib.Algebra.Order.Ring.Rat
import FormulaEditor.Proofs.Binary64.Parity
import FormulaEditor.Proofs.Evaluation.Power
import FormulaEditor.Proofs.Evaluation.WellFormed

/-! # Powers of a negative base

The power of a negative number to a fraction is complex, and the sign of a whole power follows from
the parity of the exponent.  Both are told from the rounded exponent, so what rounding does to it
decides on the answer: a fraction that rounds to a whole number is taken for one, and from `2 ^ 53`
on every exponent is taken for an even one.
-/

namespace FormulaEditor

/-- The rational that a number is; a binary one is taken as it is, not for its shortest decimal. -/
def Number.rational? : Number → Option Rat
  | .int n => some n
  | .float x => x.toRat?

/-! ## Binary numbers -/

namespace Binary64

variable {mantissa : Nat} {scale : Int} {y z : Binary64}

theorem isOdd_of_isZero (zero : y.isZero = true) : y.isOdd = false := by
  cases y with
  | nan | infinity negative => rfl
  | finite negative n k =>
    rw [isZero, beq_iff_eq] at zero
    simp [isOdd, zero]

theorem isFinite_of_isZero (zero : y.isZero = true) : y.isFinite = true := by
  cases y with
  | nan | infinity negative => cases zero
  | finite negative n k => rfl

theorem isZero_of_not_isWhole (fraction : y.isWhole = false) : y.isZero = false := by
  cases y with
  | nan | infinity negative => rfl
  | finite negative n k =>
    rw [isZero, beq_eq_false_iff_ne]
    rintro rfl
    simp [isWhole] at fraction

theorem exists_negateIf_eq {flag : Bool} (finite : (negateIf flag z.abs).isFinite = true) :
    ∃ m e, negateIf flag z.abs = .finite flag m e := by
  cases z <;> cases flag <;> simp_all [negateIf, abs, neg, isFinite]

/-- The power of a positive number, to be negated or not, has the sign that it was given. -/
theorem powerOfPositive_sign {flag : Bool} {x : Binary64}
    (powered : powerOfPositive flag x y = .ok z) (finite : z.isFinite = true) :
    ∃ m e, z = .finite flag m e := by
  rw [powerOfPositive] at powered
  split at powered
  · cases powered
    exact exists_negateIf_eq (z := one) finite
  · split at powered
    · cases powered
    · cases powered
      exact exists_negateIf_eq finite

theorem power_of_isZero {x : Binary64} (zero : y.isZero = true) : power x y = .ok one := by
  rw [power.eq_def, if_pos zero]

theorem power_of_isFinite {negative : Bool} (finiteExponent : y.isFinite = true) :
    power (.finite negative mantissa scale) y =
      if y.isZero then .ok one
      else if mantissa = 0 then
        if y.isBelowZero then .error .zeroToNegative else .ok (zero (negative && y.isOdd))
      else if negative && !y.isWhole then
        match magnitudePower (.finite false mantissa scale) y with
        | .infinity _ => .error .complexOutOfRange
        | _ => .error .complex
      else powerOfPositive (negative && y.isOdd) (.finite false mantissa scale) y := by
  cases y with
  | nan | infinity negative => cases finiteExponent
  | finite sign n k => rfl

/-- A power of a negative number has the sign that the parity of the exponent gives it. -/
theorem power_sign (finiteExponent : y.isFinite = true)
    (powered : power (.finite true mantissa scale) y = .ok z) (finite : z.isFinite = true) :
    ∃ m e, z = .finite y.isOdd m e := by
  rw [power_of_isFinite finiteExponent] at powered
  -- The exponent is zero, the base is zero, the exponent is a fraction, or the magnitude is taken.
  split at powered
  · next zero =>
    cases powered
    rw [isOdd_of_isZero zero]
    exact ⟨_, _, rfl⟩
  split at powered
  · split at powered
    · cases powered
    · cases powered
      exact ⟨_, _, rfl⟩
  split at powered
  · split at powered <;> cases powered
  · exact powerOfPositive_sign powered finite

/-- A negative number has no power to a fraction. -/
theorem power_of_not_isWhole (nonzero : mantissa ≠ 0) (finiteExponent : y.isFinite = true)
    (fraction : y.isWhole = false) :
    power (.finite true mantissa scale) y = .error .complex ∨
      power (.finite true mantissa scale) y = .error .complexOutOfRange := by
  rw [power_of_isFinite finiteExponent, if_neg (by simp [isZero_of_not_isWhole fraction]),
    if_neg nonzero, if_pos (by simp [fraction])]
  split
  · exact .inr rfl
  · exact .inl rfl

end Binary64

/-! ## Values -/

namespace Value

/-- The value is below zero or above it, as the flag says; a rounded one may be zero of that
sign. -/
def HasSign (negative : Bool) : Value → Prop
  | .exact q => if negative then q < 0 else 0 < q
  | .binary x => x.isFinite = true → ∃ m e, x = .finite negative m e

theorem HasSign.toResult {negative isExact : Bool} {v : Value} {n : Number}
    (sign : v.HasSign negative) (given : v.toResult = .ok (n, isExact)) :
    ∃ q, n.rational? = some q ∧ if negative then q ≤ 0 else 0 ≤ q := by
  -- Rounding keeps the sign, be it at a power or at the result.
  have ofBinary : ∀ x : Binary64, (∃ m e, x = .finite negative m e) →
      ∃ q, x.toRat? = some q ∧ if negative then q ≤ 0 else 0 ≤ q := by
    rintro x ⟨m, e, rfl⟩
    exact ⟨_, rfl, Binary64.toRat?_sign rfl⟩
  cases v with
  | binary x =>
    rw [Value.toResult] at given
    split at given
    · next finite =>
      cases given
      exact ofBinary x (sign finite)
    · cases given
  | exact q =>
    have below : decide (q < 0) = negative := by
      cases negative with
      | true => exact decide_eq_true sign
      | false => exact decide_eq_false (not_lt.mpr (le_of_lt sign))
    rw [Value.toResult] at given
    split at given
    · next whole =>
      cases given
      refine ⟨q, congrArg some (Rat.ext (by simp) (by simp [whole.1])), ?_⟩
      cases negative with
      | true => exact le_of_lt sign
      | false => exact le_of_lt sign
    · obtain ⟨x, rounded, same⟩ := map_eq_ok_iff.mp given
      cases same
      have finite := isFinite_of_toBinary64 rounded
      rw [toBinary64] at rounded
      split at rounded
      · cases rounded
        exact ofBinary _ (below ▸ Binary64.exists_ofRat_eq finite)
      · cases rounded

variable {a b : Rat}

theorem roundedPower_of_isFinite (finite : (Binary64.ofRat a).isFinite = true)
    (finite' : (Binary64.ofRat b).isFinite = true) :
    roundedPower (.exact a) (.exact b) =
      match Binary64.power (Binary64.ofRat a) (Binary64.ofRat b) with
      | .ok z => .ok (.binary z)
      | .error fault => .error (powerError fault) := by
  rw [roundedPower, toBinary64, toBinary64, if_pos finite, if_pos finite']
  rfl

theorem roundedPower_of_not_isFinite
    (infinite : ¬ ((Binary64.ofRat a).isFinite = true ∧ (Binary64.ofRat b).isFinite = true)) :
    roundedPower (.exact a) (.exact b) = .error .exactTooLarge := by
  rw [roundedPower, toBinary64, toBinary64]
  split
  · next finite =>
    rw [if_neg fun finite' => infinite ⟨finite, finite'⟩]
    rfl
  · rfl

/-- The rounded power of a negative number to a fraction, if rounding leaves the exponent a fraction
and the base other than zero. -/
theorem roundedPower_of_fraction (negative : a < 0)
    (fraction : (Binary64.ofRat b).isWhole = false) (nonzero : (Binary64.ofRat a).isZero = false) :
    roundedPower (.exact a) (.exact b) = .error .complexPower ∨
      roundedPower (.exact a) (.exact b) = .error .complexPowerTooLarge ∨
      roundedPower (.exact a) (.exact b) = .error .exactTooLarge := by
  by_cases finite : (Binary64.ofRat a).isFinite = true ∧ (Binary64.ofRat b).isFinite = true
  · obtain ⟨m, e, rounded⟩ := Binary64.exists_ofRat_eq finite.1
    rw [decide_eq_true negative] at rounded
    rw [roundedPower_of_isFinite finite.1 finite.2, rounded]
    rw [rounded, Binary64.isZero, beq_eq_false_iff_ne] at nonzero
    rcases Binary64.power_of_not_isWhole nonzero finite.2 fraction with refused | refused
    · rw [refused]
      exact .inl rfl
    · rw [refused]
      exact .inr (.inl rfl)
  · exact .inr (.inr (roundedPower_of_not_isFinite finite))

theorem roundedPower_of_isZero (finite : (Binary64.ofRat a).isFinite = true)
    (zero : (Binary64.ofRat b).isZero = true) :
    roundedPower (.exact a) (.exact b) = .ok (.binary Binary64.one) := by
  rw [roundedPower_of_isFinite finite (Binary64.isFinite_of_isZero zero),
    Binary64.power_of_isZero zero]

theorem power_eq_roundedPower (negative : a < 0)
    (notTaken : exactPower? (.exact a) (.exact b) = none) :
    power (.exact a) (.exact b) = roundedPower (.exact a) (.exact b) := by
  have nonzero : ¬ ((Value.exact a).isZero && (Value.exact b).isBelowZero) = true := by
    simp [isZero, ne_of_lt negative]
  rw [power, if_neg nonzero, notTaken]

theorem exactPower?_of_ne_intCast (fraction : ∀ n : Int, b ≠ n) :
    exactPower? (.exact a) (.exact b) = none := by
  refine if_neg fun admitted => fraction b.num ?_
  exact Rat.ext (by simp) (by simp [admitted.1])

theorem one_le_ratBits (a : Rat) : 1 ≤ ratBits a := by
  refine Nat.le_trans ?_ (Nat.le_max_right _ _)
  rw [bitLength, if_neg a.den_nz]
  omega

/-- The parity of the exponent gives the sign of an exact power, and it is that of the rounded
exponent. -/
theorem hasSign_zpow {n : Int} (negative : a < 0) (small : n.natAbs < 2 ^ 53) :
    (Value.exact (a ^ n)).HasSign (Binary64.ofRat n).isOdd := by
  rcases Int.even_or_odd n with even | odd
  · rw [Binary64.isOdd_ofRat_of_even even]
    exact even.zpow_pos (ne_of_lt negative)
  · rw [(Binary64.isOdd_ofRat_iff n).mpr ⟨odd, small⟩]
    exact odd.zpow_neg negative

theorem hasSign_roundedPower {v : Value} (negative : a < 0)
    (powered : roundedPower (.exact a) (.exact b) = .ok v) :
    v.HasSign (Binary64.ofRat b).isOdd := by
  by_cases finite : (Binary64.ofRat a).isFinite = true ∧ (Binary64.ofRat b).isFinite = true
  · obtain ⟨m, e, rounded⟩ := Binary64.exists_ofRat_eq finite.1
    rw [decide_eq_true negative] at rounded
    rw [roundedPower_of_isFinite finite.1 finite.2, rounded] at powered
    split at powered
    · next z found =>
      cases powered
      exact Binary64.power_sign finite.2 found
    · cases powered
  · rw [roundedPower_of_not_isFinite finite] at powered
    cases powered

/-- The parity of the rounded exponent gives the sign of every power of a negative number. -/
theorem hasSign_power {v : Value} (negative : a < 0)
    (powered : power (.exact a) (.exact b) = .ok v) : v.HasSign (Binary64.ofRat b).isOdd := by
  cases taken : exactPower? (.exact a) (.exact b) with
  | none =>
    rw [power_eq_roundedPower negative taken] at powered
    exact hasSign_roundedPower negative powered
  | some q =>
    obtain ⟨n, rfl, rfl, within⟩ := exists_int_of_exactPower? taken
    have defined : ¬ (a = 0 ∧ n < 0) := fun zero => ne_of_lt negative zero.1
    rw [power_of_le defined within] at powered
    cases powered
    -- The estimate of its size keeps the exponent of an exact power small.
    have small : n.natAbs < 2 ^ 53 :=
      calc n.natAbs
          ≤ ratBits a * n.natAbs := Nat.le_mul_of_pos_left _ (one_le_ratBits a)
        _ ≤ exactPowerBits := within
        _ < 2 ^ 53 := by decide
    exact hasSign_zpow negative small

end Value

/-! ## Answers -/

/-- Every answer is a rational with the property. -/
def Expr.AnswersWith (e : Expr) (bindings : Bindings) (property : Rat → Prop) : Prop :=
  ∀ answer, e.evaluate bindings = .ok answer →
    ∃ q, answer.value.rational? = some q ∧ property q

/-- How the power of a negative number `a` to `b` is evaluated. -/
structure Expr.PowerOfNegative (e : Expr) (bindings : Bindings) (a b : Rat) : Prop where
  /-- to a fraction there is no power, if rounding leaves the exponent a fraction and the base other
  than zero -/
  fraction : (∀ n : Int, b ≠ n) → (Binary64.ofRat b).isWhole = false →
    (Binary64.ofRat a).isZero = false → ∃ cause, e.evaluate bindings = .error cause ∧
      (cause = .complexPower ∨ cause = .complexPowerTooLarge ∨ cause = .exactTooLarge)
  /-- to a fraction that rounds to zero it is one -/
  vanishing : (∀ n : Int, b ≠ n) → (Binary64.ofRat b).isZero = true →
    (Binary64.ofRat a).isFinite = true →
      ∃ steps, e.evaluate bindings = .ok ⟨.float Binary64.one, false, steps⟩
  /-- it is not above zero if the rounded exponent is odd, and else not below -/
  sign : e.AnswersWith bindings fun q => if (Binary64.ofRat b).isOdd then q ≤ 0 else 0 ≤ q
  even : ∀ n : Int, b = n → Even n → e.AnswersWith bindings (0 ≤ ·)
  odd : ∀ n : Int, b = n → Odd n → n.natAbs < 2 ^ 53 → e.AnswersWith bindings (· ≤ 0)
  /-- from `2 ^ 53` on every exponent is taken for an even one -/
  beyond : ∀ n : Int, b = n → 2 ^ 53 ≤ n.natAbs → e.AnswersWith bindings (0 ≤ ·)

namespace Expr

variable {bindings : Bindings} {env : ExactBindings} {left right : Expr} {a b : Rat}

/-- The power of a negative number: what rounding leaves of the exponent decides on the answer. -/
theorem evaluate_power_of_negative (made : bindings.toExact = .ok env)
    (base : left.computed env = .ok (.exact a)) (exponent : right.computed env = .ok (.exact b))
    (negative : a < 0) : (binary "^" left right).PowerOfNegative bindings a b := by
  have computes := computed_power base exponent
  have sign : (binary "^" left right).AnswersWith bindings fun q =>
      if (Binary64.ofRat b).isOdd then q ≤ 0 else 0 ≤ q := by
    intro answer answered
    obtain ⟨env', v, made', ended, given⟩ := exists_computed_of_evaluate answered
    rw [made] at made'
    cases made'
    rw [computes] at ended
    exact (Value.hasSign_power negative ended).toResult given
  refine ⟨fun noInt fraction nonzero => ?_, fun noInt zero finite => ?_, sign, ?_, ?_, ?_⟩
  · rw [Value.power_eq_roundedPower negative (Value.exactPower?_of_ne_intCast noInt)] at computes
    rcases Value.roundedPower_of_fraction negative fraction nonzero with failed | failed | failed
    · exact ⟨_, evaluate_of_error made (computes.trans failed), .inl rfl⟩
    · exact ⟨_, evaluate_of_error made (computes.trans failed), .inr (.inl rfl)⟩
    · exact ⟨_, evaluate_of_error made (computes.trans failed), .inr (.inr rfl)⟩
  · rw [Value.power_eq_roundedPower negative (Value.exactPower?_of_ne_intCast noInt),
      Value.roundedPower_of_isZero finite zero] at computes
    exact evaluate_of_ok made computes
  · rintro n rfl even
    rw [Binary64.isOdd_ofRat_of_even even] at sign
    exact sign
  · rintro n rfl odd small
    rw [(Binary64.isOdd_ofRat_iff n).mpr ⟨odd, small⟩] at sign
    exact sign
  · rintro n rfl large
    rw [Binary64.isOdd_ofRat_of_le large] at sign
    exact sign

theorem ne_intCast_of_den {q : Rat} (fraction : q.den ≠ 1) (n : Int) : q ≠ n := by
  rintro rfl
  exact fraction (Rat.den_intCast n)

/-- There is no square root of minus eight. -/
theorem evaluate_power_of_negative_root :
    ∃ cause, (binary "^" (unary "-" (number (.int 8)))
        (binary "/" (number (.int 1)) (number (.int 2)))).evaluate [] = .error cause ∧
      (cause = .complexPower ∨ cause = .complexPowerTooLarge ∨ cause = .exactTooLarge) := by
  have base : (unary "-" (number (.int 8))).computed [] = .ok (.exact (-8)) := by
    rw [computed_unary, computed_number]
    rfl
  have exponent : (binary "/" (number (.int 1)) (number (.int 2))).computed [] =
      .ok (.exact (1 / 2)) := by
    rw [computed_binary, computed_number, computed_number]
    rfl
  have unbound : Bindings.toExact [] = .ok [] := rfl
  have power := evaluate_power_of_negative unbound base exponent (by decide +kernel)
  exact power.fraction (ne_intCast_of_den (by decide +kernel)) (by decide +kernel)
    (by decide +kernel)

/-- One by `10 ^ 400`, which rounds to zero. -/
def tinyFraction : Expr :=
  .binary "/" (.number (.int 1)) (.binary "^" (.number (.int 10)) (.number (.int 400)))

/-- The power of minus eight to a fraction that rounds to zero is given as one, and so is that of
minus one to an odd exponent above `2 ^ 53`. -/
theorem evaluate_power_of_negative_spurious :
    (tinyFraction.computed []).toOption = some (.exact (1 / 10 ^ 400)) ∧
    (∀ n : Int, (1 / 10 ^ 400 : Rat) ≠ n) ∧
    ((binary "^" (unary "-" (number (.int 8))) tinyFraction).evaluate []).toOption.map
      Answer.value = some (.float Binary64.one) ∧
    Odd (2 ^ 53 + 1 : Int) ∧
    ((binary "^" (unary "-" (number (.int 1)))
      (number (.int (2 ^ 53 + 1)))).evaluate []).toOption.map
        Answer.value = some (.float Binary64.one) := by
  exact ⟨by decide +kernel, ne_intCast_of_den (by decide +kernel), by decide +kernel,
    ⟨2 ^ 52, by decide⟩, by decide +kernel⟩

end Expr

end FormulaEditor
