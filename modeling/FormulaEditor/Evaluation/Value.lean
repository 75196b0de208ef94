import FormulaEditor.Binary64.Power
import FormulaEditor.Evaluation.Error
import FormulaEditor.Number

/-! # Values and their arithmetic

A value is an exact rational for as long as the operations allow, and a binary number from the
first power on that has no exact result of bounded size. An operation with a binary operand is done
on binary numbers, and its result stays binary.
-/

namespace FormulaEditor

/-- An intermediate value. -/
inductive Value where
  | exact (q : Rat)
  | binary (x : Binary64)
  deriving DecidableEq, Repr

/-- The number of bits of a natural; zero has none. -/
def bitLength (n : Nat) : Nat := if n = 0 then 0 else n.log2 + 1

/-- The bits of the larger part of a fraction in lowest terms. -/
def ratBits (q : Rat) : Nat := max (bitLength q.num.natAbs) (bitLength q.den)

namespace Value

def ofNumber : Number → Except EvalError Rat
  | .int n => .ok n
  | .float x =>
    match x.shortestRat? with
    | some q => .ok q
    | none => .error (.nonFinite x)

/-- The value rounded to a binary number. -/
def toBinary64 : Value → Except EvalError Binary64
  | .exact q =>
    if (Binary64.ofRat q).isFinite then .ok (Binary64.ofRat q) else .error .exactTooLarge
  | .binary x => .ok x

def isZero : Value → Bool
  | .exact q => q == 0
  | .binary x => x.isZero

def isBelowZero : Value → Bool
  | .exact q => decide (q < 0)
  | .binary x => x.isBelowZero

/-! ## Operations -/

def neg : Value → Value
  | .exact q => .exact (-q)
  | .binary x => .binary x.neg

/-- An operation that exists on both kinds of numbers; a mixed pair is rounded first. -/
def combine (onExact : Rat → Rat → Rat)
    (onBinary : Binary64 → Binary64 → Except EvalError Binary64) :
    Value → Value → Except EvalError Value
  | .exact a, .exact b => .ok (.exact (onExact a b))
  | a, b => do
    let x ← a.toBinary64
    let y ← b.toBinary64
    (onBinary x y).map .binary

def add : Value → Value → Except EvalError Value :=
  combine (· + ·) fun x y => .ok (x.add y)

def sub : Value → Value → Except EvalError Value :=
  combine (· - ·) fun x y => .ok (x.sub y)

def mul : Value → Value → Except EvalError Value :=
  combine (· * ·) fun x y => .ok (x.mul y)

/-- The quotient of binary numbers; there is none by zero. -/
def binaryQuotient (x y : Binary64) : Except EvalError Binary64 :=
  if y.isZero then .error .roundedDivisionByZero else .ok (x.div y)

/-- The quotient; there is none by zero, nor by an exact number that rounds to zero if the quotient
is that of binary numbers. -/
def div (a b : Value) : Except EvalError Value :=
  -- The test is on the value as it is; rounding can still give a zero to divide by.
  if b.isZero then .error .divisionByZero else combine (· / ·) binaryQuotient a b

/-- Powers whose size in bits is estimated at no more than this are exact. -/
def exactPowerBits : Nat := 8192

def wholePower (a : Rat) (n : Int) : Rat :=
  if n < 0 then (a ^ n.natAbs)⁻¹ else a ^ n.natAbs

/-- The exact power, when base and exponent are exact, the exponent is whole, and the size of the
result is bounded. -/
def exactPower? : Value → Value → Option Rat
  | .exact a, .exact b =>
    -- The size of the power is estimated, not computed.
    if b.den = 1 ∧ ratBits a * b.num.natAbs ≤ exactPowerBits then some (wholePower a b.num)
    else none
  | _, _ => none

/-- The cause for a power of binary numbers that has no value. -/
def powerError : Binary64.PowerFault → EvalError
  | .zeroToNegative => .roundedZeroToNegative
  | .complex => .complexPower
  | .complexOutOfRange => .complexPowerTooLarge
  | .outOfRange => .powerTooLarge

/-- The power of binary numbers, after rounding. -/
def roundedPower (a b : Value) : Except EvalError Value := do
  let x ← a.toBinary64
  let y ← b.toBinary64
  match Binary64.power x y with
  | .ok z => return .binary z
  | .error fault => .error (powerError fault)

/-- The power; zero has none with a negative exponent. -/
def power (a b : Value) : Except EvalError Value :=
  if a.isZero && b.isBelowZero then .error .zeroToNegative
  else
    match exactPower? a b with
    | some q => .ok (.exact q)
    | none => roundedPower a b

def operation? (symbol : String) : Option (Value → Value → Except EvalError Value) :=
  match Operator.ofSymbol? symbol with
  | some .plus => some add
  | some .minus => some sub
  | some .times => some mul
  | some .divide => some div
  | some .power => some power
  | _ => none

/-- Applies a symbol to two values. -/
def apply (symbol : String) (a b : Value) : Except EvalError Value :=
  match operation? symbol with
  | some operation => operation a b
  | none => .error (.unknownOperator symbol)

/-! ## Texts and results -/

/-- Whole numbers of more bits are not given as results, and fractions of more bits are written
in brief. -/
def resultBits : Nat := 1024

/-- The value as computation steps show it: fractions in lowest terms, all else in brief; a tilde
marks an exact value that is too long to show. -/
def text : Value → String
  | .binary x => x.brief
  | .exact q =>
    if resultBits < ratBits q then "~" ++ (Binary64.ofRat q).brief
    else if q.den = 1 then toString q.num
    else toString q.num ++ "/" ++ toString q.den

/-- The number that a value gives as a result, and whether it is exact. -/
def toResult (v : Value) : Except EvalError (Number × Bool) :=
  match v with
  | .exact q =>
    if q.den = 1 ∧ bitLength q.num.natAbs ≤ resultBits then .ok (.int q.num, true)
    else (Value.exact q).toBinary64.map fun x => (.float x, false)
  | .binary x => if x.isFinite then .ok (.float x, false) else .error .infiniteResult

end Value

end FormulaEditor
