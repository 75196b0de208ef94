/-! # Operator symbols

The seven symbols that stand for themselves in a formula: five arithmetic operators and the two
parentheses. Each is one character, typed with one key.
-/

namespace FormulaEditor

/-- A symbol that stands for itself in a formula. -/
inductive Operator where
  | plus
  | minus
  | times
  | divide
  | power
  | openParen
  | closeParen
  deriving DecidableEq, Repr, Inhabited

namespace Operator

/-- The character of the symbol. -/
def char : Operator → Char
  | .plus => '+'
  | .minus => '-'
  | .times => '*'
  | .divide => '/'
  | .power => '^'
  | .openParen => '('
  | .closeParen => ')'

/-- The symbols in the order of their keys. -/
def all : List Operator := [.plus, .minus, .times, .divide, .power, .openParen, .closeParen]

def symbol (op : Operator) : String := String.ofList [op.char]

def ofChar? (c : Char) : Option Operator := all.find? (·.char == c)

def ofSymbol? (s : String) : Option Operator := all.find? (·.symbol == s)

theorem symbol_of_ofSymbol? {s : String} {op : Operator} (h : ofSymbol? s = some op) :
    op.symbol = s := by
  simpa using List.find?_some h

end Operator

end FormulaEditor
