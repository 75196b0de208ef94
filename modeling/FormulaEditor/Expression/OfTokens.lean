import FormulaEditor.Expression.Basic
import FormulaEditor.Token

/-! # The expression that a row of tokens stands for

Powers bind tightest and to the right, then signs, then multiplication and division, then addition
and subtraction, the last four to the left; parentheses group. Reading climbs by binding strength: a
tree is extended by operators that bind tighter than a floor. Every step takes a token, so what is
left is always shorter; nesting is limited by the room for inner expressions.
-/

namespace FormulaEditor

/-! ## Errors -/

/-- Why a row of tokens is no expression. -/
inductive ParseFault where
  /-- there are no tokens -/
  | empty
  /-- a token behind a complete expression -/
  | unexpected (position : Nat) (label : RawText)
  /-- such a token, when it has no label to tell it by; this fault is never told as a reason -/
  | unwritable
  /-- an operand is missing at the end -/
  | unexpectedEnd
  | textOperand (s : RawText)
  /-- parentheses around nothing -/
  | emptyParens
  /-- a parenthesis that is not closed -/
  | unclosedParen
  | operatorOperand (label : String)
  /-- more nested expressions than there is room for -/
  | tooDeep
  deriving DecidableEq, Repr

/-- The number of expressions that may be nested in one another, the outermost one included. -/
def nestingLimit : Nat := 100

def ParseFault.message : ParseFault → String
  | .empty => "Puste wyrażenie"
  | .unexpected position label =>
    "Nieoczekiwany token na pozycji " ++ toString position ++ ": " ++ label.quoted
  | .unwritable => integerLimitMessage ""
  | .unexpectedEnd => "Nieoczekiwany koniec wyrażenia"
  | .textOperand s => "Token tekstowy nie jest liczbą: " ++ s.quoted
  | .emptyParens => "Puste nawiasy"
  | .unclosedParen => "Niezamknięty nawias"
  | .operatorOperand label => "Oczekiwano liczby, otrzymano " ++ Text.quoted label
  | .tooDeep =>
    "Zbyt głębokie zagnieżdżenie wyrażenia (limit " ++ toString nestingLimit ++ ")"

/-- The fault of a token behind a complete expression. It is told by its label. -/
def ParseFault.behind (position : Nat) (next : Token) : ParseFault :=
  match next.label? with
  | some label => .unexpected position label
  | none => .unwritable

/-- A fault and the tokens that were left when it was found. -/
structure ParseError where
  fault : ParseFault
  rest : List Token
  deriving DecidableEq, Repr

/-! ## Reading -/

namespace Expr

/-- How tightly a binary operator binds what stands on its left, and the floor for the expression on
its right. -/
structure Binding where
  left : Nat
  right : Nat

/-- The binding of an operator that can stand between two operands. -/
def binding? : Operator → Option Binding
  | .plus | .minus => some ⟨10, 10⟩
  | .times | .divide => some ⟨20, 20⟩
  -- The floor on the right is lower, so that powers group to the right.
  | .power => some ⟨30, 29⟩
  | .openParen | .closeParen => none

/-- The floor for the operand of a sign: tighter than multiplication, looser than powers. -/
def signFloor : Nat := 25

/-- A tree that was read, fewer than `bound` tokens being left. -/
structure Reading (bound : Nat) where
  tree : Expr
  rest : List Token
  shorter : rest.length < bound

/-- A way to read an expression whose operators bind tighter than a floor. -/
abbrev Reader : Type :=
  (floor : Nat) → (ts : List Token) → Except ParseError (Reading ts.length)

/-- An operand: a number, a variable, a sign with its operand, or parentheses. -/
def operand (inner : Reader) : (ts : List Token) → Except ParseError (Reading ts.length)
  | [] => .error ⟨.unexpectedEnd, []⟩
  | .number value :: rest => .ok ⟨.number value, rest, Nat.lt_succ_self _⟩
  | .variable id name value :: rest => .ok ⟨.variable id name value, rest, Nat.lt_succ_self _⟩
  | .text s :: rest => .error ⟨.textOperand s, .text s :: rest⟩
  | .operator .openParen :: rest =>
    if rest.head? = some (.operator .closeParen) then .error ⟨.emptyParens, rest⟩
    else
      -- What is enclosed starts over with the lowest floor.
      match inner 0 rest with
      | .error e => .error e
      | .ok ⟨tree, behind, shorter⟩ =>
        if behind.head? = some (.operator .closeParen) then
          .ok ⟨tree, behind.tail, by rw [List.length_tail, List.length_cons]; omega⟩
        else .error ⟨.unclosedParen, behind⟩
  | .operator op :: rest =>
    if op = .minus ∨ op = .plus then
      match inner signFloor rest with
      | .error e => .error e
      | .ok ⟨tree, behind, shorter⟩ =>
        .ok ⟨.unary op.symbol tree, behind, Nat.lt_succ_of_lt shorter⟩
    else .error ⟨.operatorOperand op.symbol, .operator op :: rest⟩

/-- Extends a tree by the operators that bind tighter than the floor. -/
def climb (inner : Reader) (floor : Nat) (left : Expr) (ts : List Token) :
    Except ParseError (Reading (ts.length + 1)) :=
  match ts with
  | .operator op :: rest =>
    match binding? op with
    | none => .ok ⟨left, .operator op :: rest, Nat.lt_succ_self _⟩
    | some binding =>
      -- An operator that binds as tightly as the floor is left to the reader outside.
      if binding.left ≤ floor then .ok ⟨left, .operator op :: rest, Nat.lt_succ_self _⟩
      else
        match inner binding.right rest with
        | .error e => .error e
        | .ok ⟨right, behind, shorter⟩ =>
          match climb inner floor (.binary op.symbol left right) behind with
          | .error e => .error e
          | .ok ⟨tree, final, shorter'⟩ => .ok ⟨tree, final, by rw [List.length_cons]; omega⟩
  | ts => .ok ⟨left, ts, Nat.lt_succ_self _⟩
termination_by ts.length
decreasing_by rw [List.length_cons]; omega

/-- An expression whose operators bind tighter than the floor, with room for so many nested
expressions, itself included. -/
def read : (room : Nat) → Reader
  | 0, _, ts => .error ⟨.tooDeep, ts⟩
  | room + 1, floor, ts =>
    match operand (read room) ts with
    | .error e => .error e
    | .ok ⟨first, rest, shorter⟩ =>
      match climb (read room) floor first rest with
      | .error e => .error e
      | .ok ⟨tree, final, shorter'⟩ => .ok ⟨tree, final, by omega⟩

/-- The expression that all the tokens together stand for. -/
def ofTokens : List Token → Except ParseError Expr
  | [] => .error ⟨.empty, []⟩
  | first :: more =>
    match read nestingLimit 0 (first :: more) with
    | .error e => .error e
    | .ok ⟨tree, [], _⟩ => .ok tree
    | .ok ⟨_, next :: behind, _⟩ =>
      .error ⟨.behind (more.length - behind.length) next, next :: behind⟩

end Expr

end FormulaEditor
