import FormulaEditor.Evaluation.Answer
import FormulaEditor.Proofs.Evaluation.Machine

/-! # Computations that fail on numbers only

A complete tree, one without gaps and with known operators only, can be computed with unless the
numbers forbid it. Every operation on every pair of values either has a result or fails for a cause
that lies in the numbers, and so does the tree as a whole.
-/

namespace FormulaEditor

/-- The cause lies in the numbers, not in the tokens nor in the shape of the tree. -/
def EvalError.IsNumeric : EvalError → Prop
  | .malformed _ | .unknownOperator _ | .missingNode | .missingOperand | .unwritable => False
  | _ => True

/-- A cause that lies in the numbers is reported. -/
theorem EvalError.IsNumeric.isReported {cause : EvalError} (numeric : cause.IsNumeric) :
    cause.family.isReported = true := by
  cases cause <;> first | rfl | exact numeric.elim

/-- If the computation fails, the cause lies in the numbers. -/
def FailsOnNumbers {α : Type} (computation : Except EvalError α) : Prop :=
  ∀ cause, computation = .error cause → cause.IsNumeric

namespace FailsOnNumbers

variable {α β : Type} {computation : Except EvalError α}

theorem ok (a : α) : FailsOnNumbers (.ok a) := by
  intro cause failed
  cases failed

theorem error {cause : EvalError} (numeric : cause.IsNumeric) :
    FailsOnNumbers (.error cause : Except EvalError α) := by
  intro other failed
  cases failed
  exact numeric

theorem bind {next : α → Except EvalError β} (fails : FailsOnNumbers computation)
    (goesOn : ∀ a, FailsOnNumbers (next a)) : FailsOnNumbers (computation >>= next) := by
  cases computation with
  | ok a => exact goesOn a
  | error cause => exact error (fails cause rfl)

theorem map {f : α → β} (fails : FailsOnNumbers computation) :
    FailsOnNumbers (computation.map f) := by
  cases computation with
  | ok a => exact ok (f a)
  | error cause => exact error (fails cause rfl)

theorem of_map {f : α → β} (fails : FailsOnNumbers (computation.map f)) :
    FailsOnNumbers computation := by
  cases computation with
  | ok a => exact ok a
  | error cause => exact error (fails cause rfl)

end FailsOnNumbers

/-! ## Values -/

namespace Value

theorem failsOnNumbers_ofNumber (n : Number) : FailsOnNumbers (ofNumber n) := by
  cases n with
  | int n => exact .ok _
  | float x =>
    rw [ofNumber]
    cases x.shortestRat? with
    | some q => exact .ok q
    | none => exact .error trivial

theorem failsOnNumbers_toBinary64 (v : Value) : FailsOnNumbers v.toBinary64 := by
  cases v with
  | binary x => exact .ok x
  | exact q =>
    rw [toBinary64]
    split
    · exact .ok _
    · exact .error trivial

theorem failsOnNumbers_combine {onExact : Rat → Rat → Rat}
    {onBinary : Binary64 → Binary64 → Except EvalError Binary64}
    (fails : ∀ x y, FailsOnNumbers (onBinary x y)) (a b : Value) :
    FailsOnNumbers (combine onExact onBinary a b) := by
  have rounded : FailsOnNumbers (do
      let x ← a.toBinary64
      let y ← b.toBinary64
      (onBinary x y).map Value.binary) :=
    (failsOnNumbers_toBinary64 a).bind fun x =>
      (failsOnNumbers_toBinary64 b).bind fun y => (fails x y).map
  cases a with
  | binary x => exact rounded
  | exact p =>
    cases b with
    | binary y => exact rounded
    | exact q => exact .ok _

theorem failsOnNumbers_div (a b : Value) : FailsOnNumbers (a.div b) := by
  rw [div]
  split
  · exact .error trivial
  · refine failsOnNumbers_combine (fun x y => ?_) a b
    rw [binaryQuotient]
    split
    · exact .error trivial
    · exact .ok _

theorem failsOnNumbers_roundedPower (a b : Value) : FailsOnNumbers (a.roundedPower b) := by
  refine (failsOnNumbers_toBinary64 a).bind fun x => (failsOnNumbers_toBinary64 b).bind fun y => ?_
  cases Binary64.power x y with
  | ok z => exact .ok _
  | error fault => cases fault <;> exact .error trivial

theorem failsOnNumbers_power (a b : Value) : FailsOnNumbers (a.power b) := by
  rw [power]
  split
  · exact .error trivial
  · cases exactPower? a b with
    | some q => exact .ok _
    | none => exact failsOnNumbers_roundedPower a b

/-- An operation of a known symbol fails on numbers only, whatever its operands are. -/
theorem failsOnNumbers_apply {symbol : String} (known : (operation? symbol).isSome) (a b : Value) :
    FailsOnNumbers (apply symbol a b) := by
  rw [apply]
  rw [operation?] at known ⊢
  cases found : Operator.ofSymbol? symbol with
  | none =>
    rw [found] at known
    cases known
  | some op =>
    rw [found] at known
    cases op with
    | plus => exact failsOnNumbers_combine (fun _ _ => .ok _) a b
    | minus => exact failsOnNumbers_combine (fun _ _ => .ok _) a b
    | times => exact failsOnNumbers_combine (fun _ _ => .ok _) a b
    | divide => exact failsOnNumbers_div a b
    | power => exact failsOnNumbers_power a b
    | openParen => cases known
    | closeParen => cases known

theorem failsOnNumbers_toResult (v : Value) : FailsOnNumbers v.toResult := by
  cases v with
  | binary x =>
    rw [toResult]
    split
    · exact .ok _
    · exact .error trivial
  | exact q =>
    rw [toResult]
    split
    · exact .ok _
    · exact (failsOnNumbers_toBinary64 _).map

end Value

/-! ## Trees -/

namespace Expr

/-- The tree has no gaps and no unknown operators between two operands. -/
def IsComplete : Expr → Prop
  | .missing => False
  | .number _ | .variable _ _ _ => True
  | .unary _ operand => operand.IsComplete
  | .binary symbol left right =>
    (Value.operation? symbol).isSome ∧ left.IsComplete ∧ right.IsComplete

/-- The value of a complete tree fails on numbers only. -/
theorem IsComplete.failsOnNumbers_computed {env : ExactBindings} {e : Expr}
    (complete : e.IsComplete) : FailsOnNumbers (e.computed env) := by
  induction e with
  | missing => exact complete.elim
  | number n =>
    rw [computed_number]
    exact (Value.failsOnNumbers_ofNumber n).map
  | «variable» id name own =>
    rw [computed_variable]
    exact (Value.failsOnNumbers_ofNumber own).map
  | unary symbol operand ih =>
    rw [computed_unary]
    exact (ih complete).map
  | binary symbol left right ihLeft ihRight =>
    obtain ⟨known, leftComplete, rightComplete⟩ := complete
    rw [computed_binary]
    exact (ihLeft leftComplete).bind fun a => (ihRight rightComplete).bind fun b =>
      Value.failsOnNumbers_apply known a b

/-- On a complete tree the machine fails on numbers only: it meets no gap and no unknown operator,
and never takes a value from an empty stack. -/
theorem IsComplete.failsOnNumbers_machine {e : Expr} (complete : e.IsComplete)
    (env : ExactBindings) : FailsOnNumbers (Machine.evaluate env e) :=
  complete.failsOnNumbers_computed.of_map

theorem failsOnNumbers_toExact (bindings : Bindings) : FailsOnNumbers bindings.toExact := by
  rw [Bindings.toExact]
  induction bindings with
  | nil => exact .ok []
  | cons binding rest ih =>
    rw [List.mapM_cons]
    exact (Value.failsOnNumbers_ofNumber binding.2).map.bind fun _ => ih.bind fun _ => .ok _

/-- The outcome for a complete tree is an answer, or a failure on numbers. -/
theorem IsComplete.failsOnNumbers_evaluate {e : Expr} (complete : e.IsComplete)
    (bindings : Bindings) : FailsOnNumbers (e.evaluate bindings) := by
  refine (failsOnNumbers_toExact bindings).bind fun env =>
    (complete.failsOnNumbers_machine env).bind fun (v, steps) =>
      (Value.failsOnNumbers_toResult v).bind fun (value, isExact) => .ok _

end Expr

end FormulaEditor
