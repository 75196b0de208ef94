import FormulaEditor.Evaluation.Step

/-! # The value of a tree

The value and the steps of a tree come from those of its operands, left before right; the first
error found is the error of the whole. Long formulas make deep trees, so the value is computed with
a list of tasks and a stack of values in place of recursion. A tree is a task, and so is an operator
that waits for its operands.
-/

namespace FormulaEditor

/-! ## By recursion -/

/-- The value of a tree and the steps that lead to it. -/
def Expr.value (env : ExactBindings) : Expr → Except EvalError (Value × List Step)
  | .missing => .error .missingNode
  | .number n => (Value.ofNumber n).map fun q => (.exact q, [])
  | .variable id name own =>
    (Step.valueOf env id own).map fun v => (v, [.lookup name v])
  | .unary symbol operand =>
    match operand.value env with
    | .error e => .error e
    | .ok (v, steps) =>
      let (result, own) := Step.sign symbol v
      .ok (result, steps ++ own)
  | .binary symbol left right =>
    match left.value env with
    | .error e => .error e
    | .ok (l, leftSteps) =>
      match right.value env with
      | .error e => .error e
      | .ok (r, rightSteps) =>
        match Value.apply symbol l r with
        | .error e => .error e
        | .ok result => .ok (result, leftSteps ++ rightSteps ++ [.apply l symbol r result])

/-! ## By a machine with a stack -/

/-- What is still to be done. -/
inductive Task where
  | visit (e : Expr)
  | unary (symbol : String)
  | binary (symbol : String)
  deriving DecidableEq, Repr

namespace Task

/-- Visiting a node takes two turns at most. -/
def weight : Task → Nat
  | .visit e => 2 * e.size
  | .unary _ | .binary _ => 1

def totalWeight : List Task → Nat
  | [] => 0
  | task :: rest => task.weight + totalWeight rest

end Task

/-- A machine at work: tasks, the next one first, values, the last one first, and the steps done,
the last one first. -/
structure Machine where
  tasks : List Task
  values : List Value
  steps : List Step
  deriving DecidableEq, Repr

namespace Machine

def start (e : Expr) : Machine := ⟨[.visit e], [], []⟩

/-- Does one task, the tasks behind it being `tasks`. -/
def perform (env : ExactBindings) (task : Task) (tasks : List Task) (values : List Value)
    (steps : List Step) : Except EvalError Machine :=
  match task with
  | .visit .missing => .error .missingNode
  | .visit (.number n) =>
    (Value.ofNumber n).map fun q => ⟨tasks, .exact q :: values, steps⟩
  | .visit (.variable id name own) =>
    (Step.valueOf env id own).map fun v => ⟨tasks, v :: values, .lookup name v :: steps⟩
  | .visit (.unary symbol operand) =>
    .ok ⟨.visit operand :: .unary symbol :: tasks, values, steps⟩
  | .visit (.binary symbol left right) =>
    .ok ⟨.visit left :: .visit right :: .binary symbol :: tasks, values, steps⟩
  | .unary symbol =>
    match values with
    | v :: below =>
      let (result, own) := Step.sign symbol v
      .ok ⟨tasks, result :: below, own ++ steps⟩
    | [] => .error .missingOperand
  | .binary symbol =>
    match values with
    | r :: l :: below =>
      (Value.apply symbol l r).map fun result =>
        ⟨tasks, result :: below, .apply l symbol r result :: steps⟩
    | _ => .error .missingOperand

/-- Every task done leaves less to do. -/
theorem totalWeight_perform_lt {env : ExactBindings} {task : Task} {tasks : List Task}
    {values : List Value} {steps : List Step} {next : Machine}
    (h : perform env task tasks values steps = .ok next) :
    Task.totalWeight next.tasks < Task.totalWeight (task :: tasks) := by
  cases task with
  | visit e =>
    cases e with
    | missing => simp [perform] at h
    | number n =>
      simp only [perform] at h
      cases hv : Value.ofNumber n <;> simp [hv, Except.map] at h
      subst h
      simp [Task.totalWeight, Task.weight, Expr.size]
    | unary symbol operand =>
      simp only [perform, Except.ok.injEq] at h
      subst h
      simp [Task.totalWeight, Task.weight, Expr.size]
      omega
    | binary symbol left right =>
      simp only [perform, Except.ok.injEq] at h
      subst h
      simp [Task.totalWeight, Task.weight, Expr.size]
      omega
    | _ id name own =>
      simp only [perform] at h
      cases hv : Step.valueOf env id own <;> simp [hv, Except.map] at h
      subst h
      simp [Task.totalWeight, Task.weight, Expr.size]
  | unary symbol =>
    cases values with
    | nil => simp [perform] at h
    | cons v below =>
      simp only [perform, Except.ok.injEq] at h
      subst h
      simp [Task.totalWeight, Task.weight]
  | binary symbol =>
    rcases values with _ | ⟨r, _ | ⟨l, below⟩⟩
    · simp [perform] at h
    · simp [perform] at h
    · simp only [perform] at h
      cases hv : Value.apply symbol l r <;> simp [hv, Except.map] at h
      subst h
      simp [Task.totalWeight, Task.weight]

/-- Runs the machine until no task is left. -/
def run (env : ExactBindings) (m : Machine) : Except EvalError Machine :=
  match m with
  | ⟨[], values, steps⟩ => .ok ⟨[], values, steps⟩
  | ⟨task :: tasks, values, steps⟩ =>
    match _ : perform env task tasks values steps with
    | .error e => .error e
    | .ok next => run env next
termination_by Task.totalWeight m.tasks
decreasing_by exact totalWeight_perform_lt (by assumption)

/-- The value on top of the stack and the steps in the order in which they were done. -/
def result (m : Machine) : Except EvalError (Value × List Step) :=
  match m.values with
  | v :: _ => .ok (v, m.steps.reverse)
  | [] => .error .missingOperand

/-- The value of a tree and the steps that lead to it. -/
def evaluate (env : ExactBindings) (e : Expr) : Except EvalError (Value × List Step) :=
  (run env (start e)).bind result

end Machine

end FormulaEditor
