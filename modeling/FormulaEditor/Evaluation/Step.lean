import FormulaEditor.Evaluation.Value

/-! # Computation steps

Each variable that is looked up, each sign that is turned and each operator that is applied leaves
one step; a plus sign leaves none.
-/

namespace FormulaEditor

inductive Step where
  /-- a variable and the value found for it -/
  | lookup (name : RawText) (v : Value)
  | negate (v result : Value)
  | apply (left : Value) (symbol : String) (right result : Value)
  deriving DecidableEq, Repr

def Step.text : Step → RawText
  | .lookup name v => name ++ RawText.whole (" = " ++ v.text)
  | .negate v result => .whole ("-(" ++ v.text ++ ") = " ++ result.text)
  | .apply left symbol right result =>
    .whole (left.text ++ " " ++ symbol ++ " " ++ right.text ++ " = " ++ result.text)

/-- Values of variables by identifier, in the order in which they were bound. -/
abbrev Bindings := List (RawText × Number)

/-- Values of variables by identifier, made exact. -/
abbrev ExactBindings := List (RawText × Rat)

namespace Bindings

/-- Binds an identifier; one that is bound already keeps its place. -/
def bind (bindings : Bindings) (id : RawText) (value : Number) : Bindings :=
  if bindings.any (·.1 == id) then bindings.map fun b => if b.1 == id then (id, value) else b
  else bindings ++ [(id, value)]

/-- All values made exact. The first one that cannot be is the error, whether a formula uses it or
not. -/
def toExact (bindings : Bindings) : Except EvalError ExactBindings :=
  bindings.mapM fun (id, value) => (Value.ofNumber value).map (id, ·)

end Bindings

namespace Step

/-- The value of a variable: what it is bound to, or else its own, which has to be finite in
either case. -/
def valueOf (env : ExactBindings) (id : RawText) (own : Number) : Except EvalError Value :=
  -- The variable's own value is made exact first, even if it is not used.
  (Value.ofNumber own).map fun q => .exact ((env.lookup id).getD q)

/-- A sign applied to a value: every sign but plus turns it. -/
def sign (symbol : String) (v : Value) : Value × List Step :=
  if symbol = "+" then (v, []) else (v.neg, [.negate v v.neg])

end Step

end FormulaEditor
