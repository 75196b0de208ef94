/-! # Rounding a quotient of naturals

Every rounding in the library, to a binary number or to a number of decimal digits, is the rounding
of one quotient of naturals to the nearest natural, a half going to the even neighbour.
-/

namespace FormulaEditor

/-- The natural nearest to `num / den`; of two equally near ones the even one. -/
def roundQuotient (num den : Nat) : Nat :=
  let whole := num / den
  let twice := 2 * (num % den)
  if twice < den then whole
  else if den < twice then whole + 1
  else if whole % 2 = 0 then whole
  else whole + 1

/-- The rounded quotient is the whole part of the quotient or one more. -/
theorem roundQuotient_eq (num den : Nat) :
    roundQuotient num den = num / den ∨ roundQuotient num den = num / den + 1 := by
  simp only [roundQuotient]
  repeat' split
  all_goals simp

theorem roundQuotient_mul_right (n den : Nat) (h : 0 < den) : roundQuotient (n * den) den = n := by
  simp [roundQuotient, Nat.mul_mod_left, Nat.mul_div_cancel _ h, h]

/-- The numerator of `base ^ k`, for an exponent of either sign. -/
def powerNum (base : Nat) (k : Int) : Nat := Nat.pow base k.toNat

/-- The denominator of `base ^ k`, for an exponent of either sign. -/
def powerDen (base : Nat) (k : Int) : Nat := Nat.pow base (-k).toNat

def reachesPower (base num den : Nat) (k : Int) : Bool :=
  decide (den * powerNum base k ≤ num * powerDen base k)

/-- The binary exponent of a positive quotient: the greatest `k` with `2 ^ k ≤ num / den`. -/
def binaryExponent (num den : Nat) : Int :=
  let k : Int := num.log2 - den.log2
  if reachesPower 2 num den k then k else k - 1

/-- The decimal exponent of a positive quotient: the greatest `k` with `10 ^ k ≤ num / den`. The
binary exponent gives it up to two. -/
def decimalExponent (num den : Nat) : Int :=
  let k : Int := (((num.log2 : Int) - den.log2 - 1) * 30103).fdiv 100000
  if reachesPower 10 num den (k + 1) then k + 1
  else if reachesPower 10 num den k then k
  else k - 1

end FormulaEditor
