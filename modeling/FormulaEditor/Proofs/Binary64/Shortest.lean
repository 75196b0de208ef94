import FormulaEditor.Binary64.Digits
import FormulaEditor.Decimal.Numeral
import FormulaEditor.Proofs.Binary64.Nearest

/-! # The shortest decimal is rounded back

Every positive number has a decimal of at most seventeen digits that is rounded to it, so the search
for the shortest one ends, and what it finds is rounded to the number.
-/

namespace FormulaEditor

/-! ## Values of decimals -/

theorem Decimal.toRat_eq_quotient (d : Decimal) :
    d.toRat = ((d.digits * powerNum 10 d.exponent : Nat) : ℚ) / (powerDen 10 d.exponent : Nat) :=
  Rat.mkRat_eq_div _ _

theorem Decimal.toRat_eq (d : Decimal) : d.toRat = d.digits * (10 : ℚ) ^ d.exponent := by
  have ten : ((10 : Nat) : ℚ) = 10 := rfl
  rw [toRat_eq_quotient, ← ten, ← powerNum_div_powerDen (by decide), Nat.cast_mul, mul_div_assoc]

theorem ten_zpow_le : (10 : ℚ) ^ (-324 : Int) ≤ 2 ^ (-1075 : Int) := by
  have powers : 2 ^ 1075 ≤ 10 ^ 324 := by decide +kernel
  rw [zpow_neg, zpow_neg]
  exact inv_anti₀ (by positivity) (by exact_mod_cast powers)

theorem le_ten_zpow : (2 : ℚ) ^ (1024 : Int) ≤ 10 ^ (309 : Int) := by
  have powers : 2 ^ 1024 ≤ 10 ^ 309 := by decide +kernel
  exact_mod_cast powers

theorem ten_zpow_le_two_zpow : (10 : ℚ) ^ (10000 : Int) ≤ 2 ^ (40000 : Int) := by
  have powers : 10 ^ 10000 ≤ 2 ^ 40000 := by decide +kernel
  exact_mod_cast powers

/-- Rationals between two powers of two have decimal exponents. -/
theorem decimalExponent_eq_of_range {num den : Nat} {q : ℚ} (low high : Nat)
    (quotient : (num / den : ℚ) = q) (atLeast : (2 : ℚ) ^ (-low : Int) ≤ q)
    (below : q < (2 : ℚ) ^ (high : Int))
    (moderate : low < 100000 ∧ high ≤ 100000) :
    decimalExponent num den = Int.log 10 q := by
  have positive : 0 < q := (zpow_pos (by norm_num) _).trans_le atLeast
  rw [← quotient] at positive
  have top : num ≠ 0 := by
    rintro rfl
    simp at positive
  have bottom : den ≠ 0 := by
    rintro rfl
    simp at positive
  rw [← quotient] at atLeast below
  have least := (Int.zpow_le_iff_le_log (b := 2) (by decide) positive).mp atLeast
  have most := (Int.lt_zpow_iff_log_lt (b := 2) (by decide) positive).mp below
  rw [decimalExponent_eq_log top bottom (by omega), quotient]

theorem Decimal.toRat_eq_zero_iff {d : Decimal} : d.toRat = 0 ↔ d.digits = 0 := by
  have power : (10 : ℚ) ^ d.exponent ≠ 0 := by positivity
  rw [toRat_eq, mul_eq_zero_iff_right power, Nat.cast_eq_zero]

namespace Binary64

section

variable {mantissa : Nat} {exponent : Int} {negative : Bool} {d : Decimal}

/-! ## Reading back -/

theorem liesAbove_iff {closed : Bool} {n : Nat} {e : Int} :
    liesAbove closed n e d = true ↔
      if closed then (n * 2 ^ e : ℚ) ≤ d.toRat else (n * 2 ^ e : ℚ) < d.toRat := by
  have two : (0 : ℚ) < powerDen 2 e := by exact_mod_cast powerDen_pos (by decide) e
  have ten : (0 : ℚ) < powerDen 10 d.exponent := by exact_mod_cast powerDen_pos (by decide) _
  have bound : (n * 2 ^ e : ℚ) = n * powerNum 2 e / powerDen 2 e := by
    rw [mul_div_assoc, powerNum_div_powerDen (by decide)]
    rfl
  rw [bound, Decimal.toRat_eq_quotient, div_le_div_iff₀ two ten, div_lt_div_iff₀ two ten, liesAbove]
  cases closed <;>
  · simp only [Bool.false_eq_true, if_true, if_false, decide_eq_true_iff]
    exact_mod_cast Iff.rfl

theorem roundsTo_iff_of_even {q : ℚ} (even : mantissa % 2 = 0) :
    RoundsTo mantissa exponent q ↔
      mantissa - marginBelow mantissa exponent ≤ q / 2 ^ exponent ∧
        q / 2 ^ exponent ≤ mantissa + 1 / 2 :=
  ⟨fun near => ⟨near.low, near.high⟩, fun near => ⟨near.1, near.2, fun _ => even⟩⟩

theorem RoundsTo.of_lt {q : ℚ} (low : mantissa - marginBelow mantissa exponent < q / 2 ^ exponent)
    (high : q / 2 ^ exponent < mantissa + 1 / 2) : RoundsTo mantissa exponent q :=
  ⟨low.le, high.le, fun tie => tie.elim (absurd · low.ne') (absurd · high.ne)⟩

theorem roundsTo_iff_of_odd {q : ℚ} (odd : ¬ mantissa % 2 = 0) :
    RoundsTo mantissa exponent q ↔
      mantissa - marginBelow mantissa exponent < q / 2 ^ exponent ∧
        q / 2 ^ exponent < mantissa + 1 / 2 := by
  constructor
  · intro near
    exact ⟨near.low.lt_of_ne fun tie => odd (near.tie (.inl tie.symm)),
      near.high.lt_of_ne fun tie => odd (near.tie (.inr tie))⟩
  · exact fun near => .of_lt near.1 near.2

/-- The decimals that read back are those that are rounded to the number. -/
theorem readsBack_iff (nonzero : mantissa ≠ 0) :
    readsBack mantissa exponent d = true ↔ RoundsTo mantissa exponent d.toRat := by
  have unit : (0 : ℚ) < 2 ^ exponent := by positivity
  -- The ends are written in quarters of the unit, in which both are whole.
  have quarters (n : ℚ) : n * 2 ^ (exponent - 2) = n / 4 * 2 ^ exponent := by
    rw [zpow_sub₀ (by norm_num)]
    norm_num
    ring
  have low : ((4 * mantissa - if mantissa == fullMantissa && decide (leastExponent < exponent)
      then 1 else 2 : Nat) : ℚ) / 4 = mantissa - marginBelow mantissa exponent := by
    rw [marginBelow]
    simp only [Bool.and_eq_true, beq_iff_eq, decide_eq_true_iff]
    split
    · rw [Nat.cast_sub (by omega)]
      push_cast
      ring
    · rw [Nat.cast_sub (by omega)]
      push_cast
      ring
  have high : ((4 * mantissa + 2 : Nat) : ℚ) / 4 = mantissa + 1 / 2 := by
    push_cast
    ring
  rw [readsBack, Bool.and_eq_true, liesBelow, Bool.not_eq_true', ← Bool.not_eq_true, liesAbove_iff,
    liesAbove_iff, quarters, quarters, low, high, ← le_div_iff₀ unit, ← lt_div_iff₀ unit,
    ← le_div_iff₀ unit, ← lt_div_iff₀ unit]
  by_cases even : mantissa % 2 = 0
  · simp [even, roundsTo_iff_of_even even]
  · simp [even, roundsTo_iff_of_odd even]

/-! ## The search -/

theorem inUnits_quotient (mantissa : Nat) (exponent scale : Int) :
    ((inUnits mantissa exponent scale).1 : ℚ) / (inUnits mantissa exponent scale).2 =
      mantissa * 2 ^ exponent / 10 ^ scale := by
  have two : ((2 : Nat) : ℚ) = 2 := rfl
  have ten : ((10 : Nat) : ℚ) = 10 := rfl
  rw [inUnits, ← two, ← ten, ← powerNum_div_powerDen (by decide),
    ← powerNum_div_powerDen (by decide), div_div_eq_mul_div]
  push_cast
  ring

/-- The whole units of `10 ^ scale` in a number. -/
def wholeUnits (mantissa : Nat) (exponent scale : Int) : Nat :=
  (inUnits mantissa exponent scale).1 / (inUnits mantissa exponent scale).2

theorem wholeUnits_bounds (mantissa : Nat) (exponent scale : Int) :
    (wholeUnits mantissa exponent scale * 10 ^ scale : ℚ) ≤ mantissa * 2 ^ exponent ∧
      (mantissa * 2 ^ exponent : ℚ) < wholeUnits mantissa exponent scale * 10 ^ scale + 10 ^ scale := by
  have step : (0 : ℚ) < 10 ^ scale := by positivity
  rw [← le_div_iff₀ step, ← add_one_mul, ← div_lt_iff₀ step, ← inUnits_quotient, wholeUnits,
    ← Nat.floor_div_eq_div (K := ℚ)]
  exact ⟨Nat.floor_le (by positivity), Nat.lt_floor_add_one _⟩

/-- What is found on a grid lies on it and reads back. -/
theorem onGrid_spec {scale : Int} (found : readsBackOnGrid? mantissa exponent scale = some d) :
    d.exponent = scale ∧ readsBack mantissa exponent d = true := by
  rw [readsBackOnGrid?] at found
  dsimp only at found
  split at found
  · next below above =>
    cases found
    refine ⟨rfl, ?_⟩
    rw [nearestOnGrid]
    dsimp only
    rcases roundQuotient_eq (inUnits mantissa exponent scale).1 (inUnits mantissa exponent scale).2
      with same | next'
    · rwa [same]
    · rwa [next']
  · next below above =>
    cases found
    exact ⟨rfl, below⟩
  · next below above =>
    cases found
    exact ⟨rfl, above⟩
  · cases found

/-- Something is found just if one of the two neighbours on the grid reads back. -/
theorem exists_onGrid_of_neighbour {scale : Int}
    (reads : readsBack mantissa exponent ⟨wholeUnits mantissa exponent scale, scale⟩ = true ∨
      readsBack mantissa exponent ⟨wholeUnits mantissa exponent scale + 1, scale⟩ = true) :
    ∃ d, readsBackOnGrid? mantissa exponent scale = some d := by
  rw [readsBackOnGrid?]
  dsimp only
  simp only [wholeUnits] at reads
  split
  all_goals simp_all

/-- On a grid that is finer than the rationals around the number are wide, one reads back. -/
theorem exists_onGrid (nonzero : mantissa ≠ 0) {scale : Int}
    (fine : (10 : ℚ) ^ scale < (marginBelow mantissa exponent + 1 / 2) * 2 ^ exponent) :
    ∃ d, readsBackOnGrid? mantissa exponent scale = some d := by
  have unit : (0 : ℚ) < 2 ^ exponent := by positivity
  have margin := marginBelow_pos mantissa exponent
  obtain ⟨below, above⟩ := wholeUnits_bounds mantissa exponent scale
  apply exists_onGrid_of_neighbour
  rw [readsBack_iff nonzero, readsBack_iff nonzero, Decimal.toRat_eq, Decimal.toRat_eq,
    Nat.cast_succ, add_one_mul]
  -- From here on all is measured in units of the last place.
  rw [← div_le_iff₀ unit] at below
  rw [← lt_div_iff₀ unit, add_div] at above
  rw [← div_lt_iff₀ unit] at fine
  by_cases near : mantissa - marginBelow mantissa exponent <
      wholeUnits mantissa exponent scale * 10 ^ scale / 2 ^ exponent
  · exact .inl (.of_lt near (by linarith))
  · refine .inr (.of_lt ?_ ?_)
    all_goals rw [add_div]
    · linarith
    · linarith

theorem scaleFor_one (nonzero : mantissa ≠ 0)
    (canonical : (finite negative mantissa exponent).IsCanonical) :
    scaleFor 1 mantissa exponent = Int.log 10 (mantissa * 2 ^ exponent : ℚ) := by
  have quotient := inUnits_quotient mantissa exponent 0
  rw [zpow_zero, div_one] at quotient
  obtain ⟨low, high⟩ := (RoundsTo.self mantissa exponent).range nonzero canonical
  have decimal := decimalExponent_eq_of_range 1075 1024 quotient low high (by decide)
  rw [scaleFor]
  dsimp only
  rw [decimal]
  omega

/-- The numbers of seventeen digits are close enough together for one to read back. -/
theorem exists_onGrid_seventeen (nonzero : mantissa ≠ 0)
    (canonical : (finite negative mantissa exponent).IsCanonical) :
    ∃ d, readsBackOnGrid? mantissa exponent (scaleFor 1 mantissa exponent - 16) = some d := by
  have unit : (0 : ℚ) < 2 ^ exponent := by positivity
  have positive : (0 : ℚ) < mantissa := by exact_mod_cast Nat.pos_of_ne_zero nonzero
  apply exists_onGrid nonzero
  rw [scaleFor_one nonzero canonical, zpow_sub₀ (by norm_num), div_lt_iff₀ (by positivity)]
  refine (Int.zpow_log_le_self (b := 10) (by decide) (mul_pos positive unit)).trans_lt ?_
  rw [mul_right_comm]
  refine mul_lt_mul_of_pos_right ?_ unit
  have fits := cast_mantissa_le canonical
  have sixteen : (10 : ℚ) ^ (16 : Int) = 10000000000000000 := by norm_num
  rw [marginBelow, sixteen]
  split
  · next power =>
    rw [power.1]
    norm_num [fullMantissa]
  · linarith

/-- The shortest decimal is found on one of seventeen grids. -/
theorem exists_shortest (nonzero : mantissa ≠ 0)
    (canonical : (finite negative mantissa exponent).IsCanonical) :
    ∃ more < 17, readsBackOnGrid? mantissa exponent (scaleFor 1 mantissa exponent - (more : Nat)) =
      some (shortest mantissa exponent) := by
  obtain ⟨d, last⟩ := exists_onGrid_seventeen nonzero canonical
  rw [shortest]
  cases search : (List.range 17).findSome? fun (more : Nat) =>
      readsBackOnGrid? mantissa exponent (scaleFor 1 mantissa exponent - more) with
  | some found =>
    obtain ⟨more, inside, here⟩ := List.exists_of_findSome?_eq_some search
    exact ⟨more, List.mem_range.mp inside, here⟩
  | none =>
    have missed := List.findSome?_eq_none_iff.mp search 16 (by decide)
    rw [Nat.cast_ofNat, last] at missed
    cases missed

/-- The shortest decimal is rounded to the number. -/
theorem roundsTo_shortest (nonzero : mantissa ≠ 0)
    (canonical : (finite negative mantissa exponent).IsCanonical) :
    RoundsTo mantissa exponent (shortest mantissa exponent).toRat := by
  obtain ⟨more, -, found⟩ := exists_shortest nonzero canonical
  exact (readsBack_iff nonzero).mp (onGrid_spec found).2

theorem le_exponent_shortest (nonzero : mantissa ≠ 0)
    (canonical : (finite negative mantissa exponent).IsCanonical) :
    -340 ≤ (shortest mantissa exponent).exponent := by
  obtain ⟨more, few, found⟩ := exists_shortest nonzero canonical
  obtain ⟨low, -⟩ := (RoundsTo.self mantissa exponent).range nonzero canonical
  have positive := (zpow_pos (by norm_num) _).trans_le low
  have log := (Int.zpow_le_iff_le_log (b := 10) (by decide) positive).mp (ten_zpow_le.trans low)
  rw [(onGrid_spec found).1, scaleFor_one nonzero canonical]
  omega

end

end Binary64

/-! ## Rounding decimals -/

theorem Decimal.isCanonical_toBinary64 (negative : Bool) (d : Decimal) :
    (d.toBinary64 negative).IsCanonical := by
  rw [toBinary64]
  split
  · exact Binary64.isCanonical_zero negative
  · dsimp only
    split
    · exact Binary64.isCanonical_zero negative
    · split
      · trivial
      · exact Binary64.isCanonical_nearest negative _
          (Nat.ne_of_gt (powerDen_pos (by decide) d.exponent))

/-- A decimal is rounded to the number that it is near to. -/
theorem Decimal.toBinary64_of_roundsTo {d : Decimal} {negative : Bool} {mantissa : Nat}
    {exponent : Int} (nonzero : mantissa ≠ 0)
    (canonical : (Binary64.finite negative mantissa exponent).IsCanonical)
    (near : Binary64.RoundsTo mantissa exponent d.toRat) (fine : -10000 ≤ d.exponent) :
    d.toBinary64 negative = .finite negative mantissa exponent := by
  obtain ⟨low, high⟩ := near.range nonzero canonical
  have positive := near.pos nonzero
  have digits : d.digits ≠ 0 := mt toRat_eq_zero_iff.mpr positive.ne'
  have least : (1 : ℚ) ≤ d.digits := by exact_mod_cast Nat.one_le_iff_ne_zero.mpr digits
  have most : (d.digits : ℚ) < 2 ^ (50000 : Int) := by
    have tens : (10 : ℚ) ^ (-d.exponent) ≤ 2 ^ (40000 : Int) :=
      (zpow_le_zpow_right₀ (by norm_num) (by omega)).trans ten_zpow_le_two_zpow
    calc (d.digits : ℚ)
        = d.toRat * 10 ^ (-d.exponent) := by
          rw [toRat_eq, mul_assoc, ← zpow_add₀ (by norm_num), Int.add_right_neg, zpow_zero, mul_one]
      _ < 2 ^ (1024 : Int) * 10 ^ (-d.exponent) := mul_lt_mul_of_pos_right high (by positivity)
      _ ≤ 2 ^ (1024 : Int) * 2 ^ (40000 : Int) := by gcongr
      _ = 2 ^ (1024 + 40000 : Int) := (zpow_add₀ (by norm_num) _ _).symm
      _ ≤ 2 ^ (50000 : Int) := zpow_le_zpow_right₀ (by norm_num) (by decide)
  -- The tests for decimals far out of range look at the decimal logarithm, which is moderate.
  have leading : decimalExponent d.digits 1 + d.exponent = Int.log 10 d.toRat := by
    rw [decimalExponent_eq_of_range 0 50000 (q := d.digits) (by simp) (by simpa using least) most
      (by decide), toRat_eq]
    exact (log_mul_zpow (by decide) (zero_lt_one.trans_le least) d.exponent).symm
  have above := (Int.zpow_le_iff_le_log (b := 10) (by decide) positive).mp (ten_zpow_le.trans low)
  have below := (Int.lt_zpow_iff_log_lt (b := 10) (by decide) positive).mp
    (high.trans_le le_ten_zpow)
  rw [toBinary64, if_neg digits]
  dsimp only
  rw [leading, exponentBound, if_neg (by omega), if_neg (by omega)]
  apply Binary64.nearest_of_roundsTo nonzero
    (Nat.ne_of_gt (powerDen_pos (by decide) d.exponent)) canonical
  rwa [← toRat_eq_quotient]

end FormulaEditor
