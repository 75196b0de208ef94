import FormulaEditor.Evaluation.Machine
import FormulaEditor.Formula

/-! # The answer of a formula

A formula with bindings for its variables has a number as its answer, with the steps that lead to
it, or there is a reason why it has none. Either is told as a verdict; a cause that is no fault of
the formula would be let through.
-/

namespace FormulaEditor

structure Answer where
  value : Number
  /-- the value is exactly that of the formula -/
  isExact : Bool
  steps : List Step
  deriving DecidableEq, Repr

/-- What evaluating a tree gives: an answer or the reason why there is none. -/
abbrev Outcome := Except EvalError Answer

/-- The outcome for a tree. All bindings are made exact before anything is computed. -/
def Expr.evaluate (e : Expr) (bindings : Bindings) : Outcome := do
  let env ← bindings.toExact
  let (v, steps) ← Machine.evaluate env e
  let (value, isExact) ← v.toResult
  return ⟨value, isExact, steps⟩

/-! ## Verdicts on formulas -/

/-- Whether a formula has a value. -/
inductive Verdict.Status where
  | ok
  | unevaluable
  deriving DecidableEq, Repr

def Verdict.Status.word : Verdict.Status → String
  | .ok => "ok"
  | .unevaluable => "unevaluable"

/-- What is told about a formula, as a record whose fields need not fit together. -/
structure Verdict where
  status : Verdict.Status := .ok
  value : Option Number := none
  isExact : Bool := true
  error : Option String := none
  steps : List Step := []
  deriving DecidableEq, Repr

namespace Verdict

def ofAnswer (answer : Answer) : Verdict :=
  { value := some answer.value, isExact := answer.isExact, steps := answer.steps }

def unevaluable (reason : String) : Verdict :=
  { status := .unevaluable, isExact := false, error := some reason }

/-- The reason that is shown, if there is one; an empty one is not. -/
def reason? (v : Verdict) : Option String := v.error.filter (· != "")

/-- The value, which is never too long to be written, or a word that there is none. -/
def display (v : Verdict) : String :=
  match v.status with
  | .ok => (v.value.map Number.text).getD "None"
  | .unevaluable => "Error"

end Verdict

namespace Formula

def outcome (f : Formula) (bindings : Bindings) : Outcome :=
  match Expr.ofTokens f with
  | .error e => .error (.malformed e.fault)
  | .ok e => e.evaluate bindings

/-- The verdict on a formula. Only causes that are reported become part of a verdict. -/
def evaluate (f : Formula) (bindings : Bindings) : Except EvalError Verdict :=
  match f.outcome bindings with
  | .ok answer => .ok (.ofAnswer answer)
  | .error e => if e.family.isReported then .ok (.unevaluable e.message) else .error e

end Formula

end FormulaEditor
