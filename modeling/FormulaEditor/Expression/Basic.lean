import FormulaEditor.Number
import FormulaEditor.Text.RawText

/-! # Expressions

An expression is the tree that a well-formed formula stands for. Trees can also be put together by
hand, so an operator is kept as the text that was given for it, known or not, and a node may be
missing. The postorder of a tree lists every node behind its operands.
-/

namespace FormulaEditor

/-- An expression tree. -/
inductive Expr where
  /-- a place without a node -/
  | missing
  | number (value : Number)
  | variable (id name : RawText) (value : Number)
  | unary (symbol : String) (operand : Expr)
  | binary (symbol : String) (left right : Expr)
  deriving DecidableEq, Repr, Inhabited

namespace Expr

/-- The number of nodes. -/
def size : Expr → Nat
  | .unary _ operand => operand.size + 1
  | .binary _ left right => left.size + right.size + 1
  | _ => 1

/-! ## Postorder -/

/-- A node without its operands. -/
inductive Node where
  | missing
  | number (value : Number)
  | variable (id name : RawText) (value : Number)
  | unary (symbol : String)
  | binary (symbol : String)
  deriving DecidableEq, Repr

/-- The nodes of a tree in postorder, in front of `rest`. -/
def postorderOnto (rest : List Node) : Expr → List Node
  | .missing => .missing :: rest
  | .number value => .number value :: rest
  | .variable id name value => .variable id name value :: rest
  | .unary symbol operand => postorderOnto (.unary symbol :: rest) operand
  | .binary symbol left right =>
    postorderOnto (postorderOnto (.binary symbol :: rest) right) left

def postorder (e : Expr) : List Node := postorderOnto [] e

/-- Puts one more node on the trees built so far, the last one first. -/
def build? (trees : List Expr) : Node → Option (List Expr)
  | .missing => some (.missing :: trees)
  | .number value => some (.number value :: trees)
  | .variable id name value => some (.variable id name value :: trees)
  | .unary symbol =>
    match trees with
    | operand :: below => some (.unary symbol operand :: below)
    | [] => none
  | .binary symbol =>
    match trees with
    | right :: left :: below => some (.binary symbol left right :: below)
    | _ => none

/-- The tree whose postorder the nodes are. -/
def ofPostorder? (nodes : List Node) : Option Expr :=
  match nodes.foldlM build? [] with
  | some [e] => some e
  | _ => none

/-- The nodes of a tree put that tree on the trees built before it. -/
theorem foldlM_build?_postorderOnto (e : Expr) (trees : List Expr) (rest : List Node) :
    (postorderOnto rest e).foldlM build? trees = rest.foldlM build? (e :: trees) := by
  induction e generalizing trees rest with
  | unary symbol operand ih => simp [postorderOnto, ih, build?]
  | binary symbol left right ihl ihr => simp [postorderOnto, ihl, ihr, build?]
  | _ => simp [postorderOnto, build?]

theorem ofPostorder?_postorder (e : Expr) : ofPostorder? e.postorder = some e := by
  simp [ofPostorder?, postorder, foldlM_build?_postorderOnto]

end Expr

end FormulaEditor
