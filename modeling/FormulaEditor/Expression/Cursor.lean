import FormulaEditor.Expression.OfTokens

/-! # Reading an expression with a cursor

The expressions of a row are read here from a cursor, which moves along the row and counts how many
expressions it is inside. Reading ends because of the positions and not because of the limit on the
nesting: an inner expression can only be read behind the place where the outer one starts, and each
further round of operators starts behind the round before it.
-/

namespace FormulaEditor

/-- A place in a row of tokens, and the number of expressions that are being read there. -/
structure Cursor where
  position : Nat
  depth : Nat
  deriving DecidableEq, Repr

namespace Cursor

open FormulaEditor.Expr (Binding binding? signFloor)

abbrev step (c : Cursor) : Cursor := { c with position := c.position + 1 }

abbrev enter (c : Cursor) : Cursor := { c with depth := c.depth + 1 }

abbrev leave (c : Cursor) : Cursor := { c with depth := c.depth - 1 }

/-- A fault that is found at a cursor. -/
def refuse {α : Type} (tokens : List Token) (c : Cursor) (fault : ParseFault) :
    Except ParseError α :=
  .error ⟨fault, tokens.drop c.position⟩

theorem lt_length {tokens : List Token} {position : Nat} {t : Token}
    (next : tokens[position]? = some t) : position < tokens.length :=
  (List.getElem?_eq_some_iff.mp next).1

/-- A tree that was read from `start` on, and the cursor behind it. -/
structure Found (tokens : List Token) (start : Nat) where
  tree : Expr
  cursor : Cursor
  further : start < cursor.position
  inside : cursor.position ≤ tokens.length

/-- A way to read expressions that start behind a place. -/
abbrev Inner (tokens : List Token) (start : Nat) : Type :=
  (floor : Nat) → (c : Cursor) → start < c.position → c.position ≤ tokens.length →
    Except ParseError (Found tokens c.position)

variable {tokens : List Token} {start : Nat}

/-- An operand: a number, a variable, a sign with its operand, or parentheses. -/
def operand (c : Cursor) (inner : Inner tokens c.position) :
    Except ParseError (Found tokens c.position) :=
  match next : tokens[c.position]? with
  | none => refuse tokens c .unexpectedEnd
  | some (.number value) => .ok ⟨.number value, c.step, Nat.lt_succ_self _, lt_length next⟩
  | some (.variable id name value) =>
    .ok ⟨.variable id name value, c.step, Nat.lt_succ_self _, lt_length next⟩
  | some (.text s) => refuse tokens c (.textOperand s)
  | some (.operator .openParen) =>
    if tokens[c.position + 1]? = some (.operator .closeParen) then refuse tokens c.step .emptyParens
    else
      match inner 0 c.step (Nat.lt_succ_self _) (lt_length next) with
      | .error e => .error e
      | .ok ⟨tree, behind, further, _⟩ =>
        if closes : tokens[behind.position]? = some (.operator .closeParen) then
          .ok ⟨tree, behind.step, Nat.lt_succ_of_lt (Nat.lt_of_succ_lt further), lt_length closes⟩
        else refuse tokens behind .unclosedParen
  | some (.operator op) =>
    if op = .minus ∨ op = .plus then
      match inner signFloor c.step (Nat.lt_succ_self _) (lt_length next) with
      | .error e => .error e
      | .ok ⟨tree, behind, further, inside⟩ =>
        .ok ⟨.unary op.symbol tree, behind, Nat.lt_of_succ_lt further, inside⟩
    else refuse tokens c (.operatorOperand op.symbol)

/-- One round of climbing: the operator at the cursor, if it binds tighter than the floor, with what
stands on its right. -/
def round (inner : Inner tokens start) (floor : Nat) (left : Found tokens start) :
    Except ParseError (Option (Found tokens left.cursor.position)) :=
  match next : tokens[left.cursor.position]? with
  | some (.operator op) =>
    match binding? op with
    | none => .ok none
    | some binding =>
      if binding.left ≤ floor then .ok none
      else
        match inner binding.right left.cursor.step (Nat.lt_succ_of_lt left.further)
            (lt_length next) with
        | .error e => .error e
        | .ok ⟨right, behind, further, inside⟩ =>
          .ok (some ⟨.binary op.symbol left.tree right, behind, Nat.lt_of_succ_lt further, inside⟩)
  | _ => .ok none

/-- Extends what was found, round by round, by the operators that bind tighter than the floor. -/
def climb (inner : Inner tokens start) (floor : Nat) (left : Found tokens start) :
    Except ParseError (Found tokens start) :=
  match round inner floor left with
  | .error e => .error e
  | .ok none => .ok left
  | .ok (some ⟨tree, behind, further, inside⟩) =>
    climb inner floor ⟨tree, behind, Nat.lt_trans left.further further, inside⟩
termination_by tokens.length - left.cursor.position
decreasing_by omega

/-- One expression whose operators bind tighter than the floor, given how the expressions in it are
read. -/
def call (floor : Nat) (c : Cursor) (inner : Inner tokens c.position) :
    Except ParseError (Found tokens c.position) :=
  if nestingLimit < c.enter.depth then refuse tokens c .tooDeep
  else
    match operand c.enter inner with
    | .error e => .error e
    | .ok first =>
      match climb inner floor first with
      | .error e => .error e
      | .ok ⟨tree, behind, further, inside⟩ => .ok ⟨tree, behind.leave, further, inside⟩

/-- An expression whose operators bind tighter than the floor. -/
def expression (tokens : List Token) (floor : Nat) (c : Cursor) :
    Except ParseError (Found tokens c.position) :=
  call floor c fun floor inner _ _ => expression tokens floor inner
termination_by tokens.length - c.position
decreasing_by omega

end Cursor

end FormulaEditor
