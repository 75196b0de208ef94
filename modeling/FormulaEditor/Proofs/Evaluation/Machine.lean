import FormulaEditor.Evaluation.Answer

/-! # The machine computes what recursion computes

Visiting a tree, whatever is still to be done behind it and whatever lies on the stack below, puts
its value on the stack and its steps behind those done, or ends with its error.
-/

namespace FormulaEditor

variable {ε α β : Type} {x : Except ε α}

theorem bind_eq_ok_iff {f : α → Except ε β} {b : β} :
    x.bind f = .ok b ↔ ∃ a, x = .ok a ∧ f a = .ok b := by
  cases x <;> simp [Except.bind]

theorem map_eq_ok_iff {f : α → β} {b : β} : x.map f = .ok b ↔ ∃ a, x = .ok a ∧ f a = b := by
  cases x <;> simp [Except.map]

theorem map_eq_error_iff {f : α → β} {cause : ε} : x.map f = .error cause ↔ x = .error cause := by
  cases x <;> simp [Except.map]

end FormulaEditor

namespace FormulaEditor.Machine

variable {env : ExactBindings} {tasks : List Task} {values : List Value} {steps : List Step}

/-- A machine without tasks is done. -/
theorem run_nil : run env ⟨[], values, steps⟩ = .ok ⟨[], values, steps⟩ := by
  rw [run]

/-- A machine does its first task and goes on. -/
theorem run_cons (task : Task) :
    run env ⟨task :: tasks, values, steps⟩ =
      (perform env task tasks values steps).bind (run env) := by
  rw [run]
  split
  · next failed => rw [failed]; rfl
  · next performed => rw [performed]; rfl

/-- Visiting a tree comes down to its value by recursion. -/
theorem run_visit (e : Expr) (tasks : List Task) (values : List Value) (steps : List Step) :
    run env ⟨.visit e :: tasks, values, steps⟩ =
      (e.value env).bind fun (v, own) => run env ⟨tasks, v :: values, own.reverse ++ steps⟩ := by
  -- The operands are visited with the operator still to be done, so the tasks vary.
  induction e generalizing tasks values steps with
  | missing => rw [run_cons]; rfl
  | number n =>
    rw [run_cons, perform, Expr.value]
    cases Value.ofNumber n <;> rfl
  | «variable» id name own =>
    rw [run_cons, perform, Expr.value]
    cases Step.valueOf env id own <;> rfl
  | unary symbol operand ih =>
    rw [run_cons, perform, Expr.value]
    change run env ⟨.visit operand :: .unary symbol :: tasks, values, steps⟩ = _
    rw [ih]
    cases operand.value env with
    | error e => rfl
    | ok result =>
      change run env ⟨.unary symbol :: tasks, result.1 :: values, _⟩ = _
      -- The operand is on the stack; a plus sign leaves it there without a step.
      rw [run_cons, perform]
      by_cases plus : symbol = "+"
      · simp [Step.sign, plus, Except.bind]
      · simp [Step.sign, plus, Except.bind]
  | binary symbol left right ihLeft ihRight =>
    rw [run_cons, perform, Expr.value]
    change run env ⟨.visit left :: .visit right :: .binary symbol :: tasks, values, steps⟩ = _
    rw [ihLeft]
    cases left.value env with
    | error e => rfl
    | ok l =>
      change run env ⟨.visit right :: .binary symbol :: tasks, l.1 :: values, _⟩ = _
      rw [ihRight]
      cases right.value env with
      | error e => rfl
      | ok r =>
        change run env ⟨.binary symbol :: tasks, r.1 :: l.1 :: values, _⟩ = _
        rw [run_cons, perform]
        cases applied : Value.apply symbol l.1 r.1 with
        | error e => simp [Except.map, Except.bind, applied]
        | ok result => simp [Except.map, Except.bind, applied]

/-- The machine gives the value of the tree and its steps, or its error. -/
theorem evaluate_eq_value (env : ExactBindings) (e : Expr) : evaluate env e = e.value env := by
  rw [evaluate, start, run_visit]
  cases e.value env with
  | error e => rfl
  | ok result =>
    change (run env ⟨[], [result.1], _⟩).bind Machine.result = _
    rw [run_nil]
    simp [Except.bind, Machine.result]

end FormulaEditor.Machine

/-! ## Values without their steps -/

namespace FormulaEditor.Expr

variable {env : ExactBindings}

/-- The value that the machine computes for a tree. -/
def computed (env : ExactBindings) (e : Expr) : Except EvalError Value :=
  (Machine.evaluate env e).map Prod.fst

theorem computed_eq (e : Expr) : e.computed env = (e.value env).map Prod.fst := by
  rw [computed, Machine.evaluate_eq_value]

theorem computed_missing : missing.computed env = .error .missingNode := by
  rw [computed_eq, value]
  rfl

theorem computed_number (n : Number) :
    (number n).computed env = (Value.ofNumber n).map Value.exact := by
  rw [computed_eq, value]
  cases Value.ofNumber n <;> rfl

theorem computed_variable (id name : RawText) (own : Number) :
    («variable» id name own).computed env = Step.valueOf env id own := by
  rw [computed_eq, value]
  cases Step.valueOf env id own <;> rfl

theorem computed_unary (symbol : String) (operand : Expr) :
    (unary symbol operand).computed env =
      (operand.computed env).map fun v => (Step.sign symbol v).1 := by
  rw [computed_eq, computed_eq, value]
  cases operand.value env <;> rfl

theorem computed_binary (symbol : String) (left right : Expr) :
    (binary symbol left right).computed env =
      (left.computed env).bind fun a => (right.computed env).bind fun b =>
        Value.apply symbol a b := by
  rw [computed_eq, computed_eq, computed_eq, value]
  cases left.value env with
  | error cause => rfl
  | ok l =>
    cases right.value env with
    | error cause => rfl
    | ok r =>
      change Except.map Prod.fst _ = Value.apply symbol l.1 r.1
      dsimp only
      cases Value.apply symbol l.1 r.1 <;> rfl

/-! ## Outcomes -/

theorem evaluate_of_error {e : Expr} {bindings : Bindings} {cause : EvalError}
    (made : bindings.toExact = .ok env) (failed : e.computed env = .error cause) :
    e.evaluate bindings = .error cause := by
  rw [evaluate, made]
  rw [computed] at failed
  cases ran : Machine.evaluate env e with
  | ok result =>
    rw [ran] at failed
    cases failed
  | error other =>
    rw [ran] at failed
    cases failed
    change (Machine.evaluate env e).bind _ = _
    rw [ran]
    rfl

theorem evaluate_of_ok {e : Expr} {bindings : Bindings} {v : Value}
    (made : bindings.toExact = .ok env) (ended : e.computed env = .ok v) :
    ∃ steps, e.evaluate bindings =
      v.toResult.map fun result => ⟨result.1, result.2, steps⟩ := by
  obtain ⟨⟨v, steps⟩, ran, rfl⟩ := map_eq_ok_iff.mp ended
  refine ⟨steps, ?_⟩
  rw [evaluate, made]
  change (Machine.evaluate env e).bind _ = _
  rw [ran]
  change v.toResult.bind _ = v.toResult.map _
  cases v.toResult <;> rfl

/-- An answer is the result of the value that was computed. -/
theorem exists_computed_of_evaluate {e : Expr} {bindings : Bindings} {answer : Answer}
    (answered : e.evaluate bindings = .ok answer) :
    ∃ env v, bindings.toExact = .ok env ∧ e.computed env = .ok v ∧
      v.toResult = .ok (answer.value, answer.isExact) := by
  obtain ⟨env, made, answered⟩ := bind_eq_ok_iff.mp answered
  obtain ⟨⟨v, steps⟩, ran, answered⟩ := bind_eq_ok_iff.mp answered
  obtain ⟨⟨value, isExact⟩, given, answered⟩ := bind_eq_ok_iff.mp answered
  cases answered
  exact ⟨env, v, made, map_eq_ok_iff.mpr ⟨_, ran, rfl⟩, given⟩

end FormulaEditor.Expr
