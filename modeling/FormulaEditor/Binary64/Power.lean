import FormulaEditor.Binary64.Basic

/-! # Powers of binary floating-point numbers

The sign of a power, its special cases and its errors are decided here on the exact values of base
and exponent. Only the magnitude of a power of a positive base other than one, to a finite non-zero
exponent, is left to the machine's power function, which takes bit patterns.
-/

namespace FormulaEditor.Binary64

/-! ## Bit patterns

The interchange format: a sign bit, eleven bits of biased exponent, fifty-two bits of mantissa
whose leading bit is left out unless the number is subnormal. -/

def signBit (negative : Bool) : Nat := if negative then 0x8000000000000000 else 0

/-- The bit pattern of a canonical number. -/
def toBits : Binary64 → UInt64
  | .nan => (0x7FF8000000000000 : UInt64)
  | .infinity negative => UInt64.ofNat (signBit negative + 0x7FF * fullMantissa)
  | .finite negative mantissa exponent =>
    if mantissa < fullMantissa then UInt64.ofNat (signBit negative + mantissa)
    else
      UInt64.ofNat
        (signBit negative + (exponent + 1075).toNat * fullMantissa + (mantissa - fullMantissa))

/-- The number that a bit pattern stands for. -/
def ofBits (bits : UInt64) : Binary64 :=
  let n := bits.toNat
  let negative := decide (signBit true ≤ n)
  let biased : Nat := n / fullMantissa % 0x800
  let fraction : Nat := n % fullMantissa
  if biased = 0x7FF then if fraction = 0 then .infinity negative else .nan
  else if biased = 0 then .finite negative fraction leastExponent
  else .finite negative (fraction + fullMantissa) ((biased : Int) - 1075)

/-! ## Powers -/

/-- Why a power has no value. -/
inductive PowerFault where
  | zeroToNegative
  /-- a negative base with a fractional exponent -/
  | complex
  /-- a negative base with a fractional exponent, the magnitude being out of range as well -/
  | complexOutOfRange
  /-- the magnitude is beyond the greatest finite number -/
  | outOfRange
  deriving DecidableEq, Repr

/-- The magnitude of a power, for a positive finite base and a finite exponent. -/
def magnitudePower (base exponent : Binary64) : Binary64 :=
  abs (ofBits ((Float.ofBits base.toBits).pow (Float.ofBits exponent.toBits)).toBits)

/-- The number with the sign turned when the flag is set. -/
def negateIf (flag : Bool) (x : Binary64) : Binary64 := if flag then x.neg else x

/-- A power with an infinite exponent depends on how the base compares with one in magnitude. -/
def powerToInfinity (base : Binary64) (negative : Bool) : Binary64 :=
  match base.abs with
  | .nan => .nan
  | .infinity _ => if negative then zero false else .infinity false
  | .finite _ mantissa exponent =>
    let num := mantissa * powerNum 2 exponent
    let den := powerDen 2 exponent
    -- One and minus one stay one in magnitude.
    if num = den then one
    else if decide (den < num) != negative then .infinity false
    else zero false

/-- A power with an infinite base. -/
def powerOfInfinity (negative : Bool) (exponent : Binary64) : Binary64 :=
  let sign := negative && exponent.isOdd
  if exponent.isBelowZero then zero sign else .infinity sign

/-- A power of a positive finite base other than zero, to a finite exponent. -/
def powerOfPositive (negative : Bool) (base exponent : Binary64) : Except PowerFault Binary64 :=
  if base = one then .ok (negateIf negative one)
  else
    match magnitudePower base exponent with
    | .infinity _ => .error .outOfRange
    | magnitude => .ok (negateIf negative magnitude)

/-- The power of one number to another. -/
def power (base exponent : Binary64) : Except PowerFault Binary64 :=
  -- Even the power of an undefined base is one then.
  if exponent.isZero then .ok one
  else
    match base, exponent with
    | .nan, _ => .ok .nan
    | _, .nan => .ok (if base = one then one else .nan)
    | _, .infinity negative => .ok (powerToInfinity base negative)
    | .infinity negative, _ => .ok (powerOfInfinity negative exponent)
    | .finite negative mantissa scale, .finite .. =>
      if mantissa = 0 then
        if exponent.isBelowZero then .error .zeroToNegative
        else .ok (zero (negative && exponent.isOdd))
      else if negative && !exponent.isWhole then
        match magnitudePower (.finite false mantissa scale) exponent with
        | .infinity _ => .error .complexOutOfRange
        | _ => .error .complex
      else powerOfPositive (negative && exponent.isOdd) (.finite false mantissa scale) exponent

end FormulaEditor.Binary64
