import FormulaEditor.Expression.OfTokens

/-! # Why a formula has no value

The causes range from a row of tokens that is no expression to a result that no number can hold.
Two of them, a missing node and a missing operand, belong to trees put together by hand, and another
two to numbers that cannot be written.
-/

namespace FormulaEditor

/-- Why a formula has no value. -/
inductive EvalError where
  /-- the tokens are no expression -/
  | malformed (fault : ParseFault)
  /-- an infinite or undefined number in the formula or among the bindings -/
  | nonFinite (x : Binary64)
  | unknownOperator (symbol : String)
  | divisionByZero
  /-- division by a number that has been rounded to zero -/
  | roundedDivisionByZero
  | zeroToNegative
  /-- zero to a negative power, the base having been rounded to zero -/
  | roundedZeroToNegative
  /-- a negative base with a fractional exponent -/
  | complexPower
  /-- a negative base with a fractional exponent, the result being out of range as well -/
  | complexPowerTooLarge
  /-- a power beyond the greatest binary number -/
  | powerTooLarge
  /-- an exact number beyond the greatest binary number -/
  | exactTooLarge
  | infiniteResult
  /-- a place of the tree without a node -/
  | missingNode
  /-- an operator without an operand to take -/
  | missingOperand
  /-- a number on display that cannot be written -/
  | unwritable
  deriving DecidableEq, Repr

/-- The families of causes. -/
inductive EvalError.Family where
  | evaluation
  | zeroDivision
  | overflow
  /-- something other than a node was met in a tree -/
  | foreignNode
  /-- a value was taken from an empty stack -/
  | emptyStack
  /-- a whole number of too many digits was to be written -/
  | unwritable
  deriving DecidableEq, Repr

def EvalError.family : EvalError → EvalError.Family
  | .malformed .unwritable | .unwritable => .unwritable
  | .malformed _ | .nonFinite _ | .unknownOperator _ | .complexPower => .evaluation
  | .divisionByZero | .roundedDivisionByZero | .zeroToNegative | .roundedZeroToNegative =>
    .zeroDivision
  | .complexPowerTooLarge | .powerTooLarge | .exactTooLarge | .infiniteResult => .overflow
  | .missingNode => .foreignNode
  | .missingOperand => .emptyStack

/-- Causes of the family are told as the reason why a formula has no value; all others are faults of
the evaluation itself and are let through. -/
def EvalError.Family.isReported : EvalError.Family → Bool
  | .evaluation | .zeroDivision | .overflow => true
  | .foreignNode | .emptyStack | .unwritable => false

/-- The wording of a cause. -/
def EvalError.message : EvalError → String
  | .malformed fault => fault.message
  | .nonFinite x => "Wartość nieskończona: " ++ x.text
  | .unknownOperator symbol => "Nieznany operator: " ++ Text.quoted symbol
  | .divisionByZero => "Dzielenie przez zero"
  | .roundedDivisionByZero => "float division by zero"
  | .zeroToNegative => "Zero do potęgi ujemnej"
  | .roundedZeroToNegative => "0.0 cannot be raised to a negative power"
  | .complexPower => "Wynik zespolony (ujemna podstawa, ułamkowy wykładnik)"
  | .complexPowerTooLarge => "complex exponentiation"
  | .powerTooLarge => "(34, 'Numerical result out of range')"
  | .exactTooLarge => "integer division result too large for a float"
  | .infiniteResult => "Wynik nieskończony"
  | .missingNode => "Nieznany typ węzła AST: <class 'NoneType'>"
  | .missingOperand => "pop from empty list"
  | .unwritable => integerLimitMessage ""

end FormulaEditor
