import FormulaEditor.Proofs.Evaluation.Numeric

/-! # The machine turn by turn

In each turn the machine does its first task.  What the tasks take from the stack and put on it
adds up to one value, and no task finds less on the stack than it takes; every turn leaves less to
do.  So the machine ends, with one value or with the error that recursion ends with.
-/

namespace FormulaEditor

/-- An operator symbol that is not known is found out before anything else, and a known one fails
on numbers only. -/
theorem Value.apply_ne_missingOperand (symbol : String) (a b : Value) :
    apply symbol a b ≠ .error .missingOperand := by
  intro failed
  cases known : operation? symbol with
  | none =>
    rw [apply, known] at failed
    cases failed
  | some operation => exact failsOnNumbers_apply (by rw [known]; rfl) a b _ failed

namespace Machine

variable {env : ExactBindings}

/-- The machine comes to another state in a number of turns. -/
inductive Reaches (env : ExactBindings) : Machine → Nat → Machine → Prop where
  | refl (m : Machine) : Reaches env m 0 m
  | turn {task : Task} {tasks : List Task} {values : List Value} {steps : List Step}
      {next last : Machine} {turns : Nat}
      (performed : perform env task tasks values steps = .ok next)
      (rest : Reaches env next turns last) :
      Reaches env ⟨task :: tasks, values, steps⟩ (turns + 1) last

/-! ## Turns and runs -/

/-- The states that the machine comes to are those that a run goes through. -/
theorem Reaches.run_eq {m last : Machine} {turns : Nat} (reaches : Reaches env m turns last) :
    run env m = run env last := by
  induction reaches with
  | refl m => rfl
  | turn performed _ ih =>
    rw [run_cons, performed]
    exact ih

theorem Reaches.turns_add_totalWeight_le {m last : Machine} {turns : Nat}
    (reaches : Reaches env m turns last) :
    turns + Task.totalWeight last.tasks ≤ Task.totalWeight m.tasks := by
  induction reaches with
  | refl m => omega
  | turn performed _ ih =>
    have lighter := totalWeight_perform_lt performed
    dsimp only
    omega

/-- The machine ends: it comes to a state without tasks, or with one that fails. -/
theorem exists_reaches_end (env : ExactBindings) (m : Machine) :
    ∃ turns last, Reaches env m turns last ∧
      ((last.tasks = [] ∧ run env m = .ok last) ∨
        ∃ task tasks cause, last.tasks = task :: tasks ∧
          perform env task tasks last.values last.steps = .error cause ∧
          run env m = .error cause) := by
  fun_induction run env m with
  | case1 values steps => exact ⟨0, _, .refl _, .inl ⟨rfl, rfl⟩⟩
  | case2 task tasks values steps cause failed =>
    exact ⟨0, _, .refl _, .inr ⟨task, tasks, cause, rfl, failed, rfl⟩⟩
  | case3 task tasks values steps next performed ih =>
    obtain ⟨turns, last, reaches, ends⟩ := ih
    exact ⟨turns + 1, last, .turn performed reaches, ends⟩

/-! ## The height of the stack -/

/-- The height of the stack after tasks, from the height before; there is none if a task finds less
on the stack than it takes. -/
def height? : List Task → Nat → Option Nat
  | [], height => some height
  | .visit _ :: tasks, height => height? tasks (height + 1)
  | .unary _ :: tasks, height + 1 => height? tasks (height + 1)
  | .binary _ :: tasks, height + 2 => height? tasks (height + 1)
  | _, _ => none

/-- A turn does to the stack what its task promises. -/
theorem height?_perform {task : Task} {tasks : List Task} {values : List Value} {steps : List Step}
    {next : Machine} (performed : perform env task tasks values steps = .ok next) :
    height? next.tasks next.values.length = height? (task :: tasks) values.length := by
  cases task with
  | visit e =>
    cases e with
    | missing => cases performed
    | number n =>
      obtain ⟨q, -, rfl⟩ := map_eq_ok_iff.mp performed
      rfl
    | «variable» id name own =>
      obtain ⟨v, -, rfl⟩ := map_eq_ok_iff.mp performed
      rfl
    | unary symbol operand =>
      cases performed
      rfl
    | binary symbol left right =>
      cases performed
      rfl
  | unary symbol =>
    cases values with
    | nil => cases performed
    | cons v below =>
      cases performed
      rfl
  | binary symbol =>
    rcases values with _ | ⟨r, _ | ⟨l, below⟩⟩
    · cases performed
    · cases performed
    · obtain ⟨result, -, rfl⟩ := map_eq_ok_iff.mp performed
      rfl

theorem Reaches.height?_eq {m last : Machine} {turns : Nat} (reaches : Reaches env m turns last) :
    height? last.tasks last.values.length = height? m.tasks m.values.length := by
  induction reaches with
  | refl m => rfl
  | turn performed _ ih => rw [ih, height?_perform performed]

/-- The task to be done next finds its operands on the stack; if none is left, the stack holds one
value. -/
def Supplied (m : Machine) : Prop :=
  match m.tasks with
  | [] => m.values.length = 1
  | .visit _ :: _ => True
  | .unary _ :: _ => 1 ≤ m.values.length
  | .binary _ :: _ => 2 ≤ m.values.length

theorem supplied_of_height? {m : Machine} (one : height? m.tasks m.values.length = some 1) :
    m.Supplied := by
  obtain ⟨tasks, values, steps⟩ := m
  rcases tasks with _ | ⟨_ | _ | _, tasks⟩
  · exact Option.some.inj one
  · trivial
  · rcases values with _ | ⟨v, below⟩
    · cases one
    · simp [Supplied]
  · rcases values with _ | ⟨r, _ | ⟨l, below⟩⟩
    · cases one
    · cases one
    · simp [Supplied]

/-- A task that finds its operands fails for another reason than the stack, if it fails. -/
theorem Supplied.perform_ne {task : Task} {tasks : List Task} {values : List Value}
    {steps : List Step} (supplied : (Machine.mk (task :: tasks) values steps).Supplied) :
    perform env task tasks values steps ≠ .error .missingOperand := by
  cases task with
  | visit e =>
    cases e with
    | missing => nofun
    | number n =>
      intro failed
      exact (Value.failsOnNumbers_ofNumber n).map _ failed
    | «variable» id name own =>
      intro failed
      exact (Value.failsOnNumbers_ofNumber own).map.map _ failed
    | unary symbol operand => nofun
    | binary symbol left right => nofun
  | unary symbol =>
    cases values with
    | nil => cases supplied
    | cons v below => nofun
  | binary symbol =>
    rcases values with _ | ⟨r, _ | ⟨l, below⟩⟩
    · cases supplied
    · exact absurd supplied (by simp [Supplied])
    · intro failed
      exact (Value.apply_ne_missingOperand symbol l r) (map_eq_error_iff.mp failed)

/-! ## From a tree to its value -/

theorem run_start (env : ExactBindings) (e : Expr) :
    run env (start e) = (e.value env).map fun (v, steps) => ⟨[], [v], steps.reverse⟩ := by
  rw [start, run_visit]
  cases e.value env with
  | error cause => rfl
  | ok result =>
    change run env ⟨[], [result.1], result.2.reverse ++ []⟩ = .ok ⟨[], [result.1], _⟩
    rw [run_nil, List.append_nil]

variable {e : Expr}

theorem Reaches.turns_le {m : Machine} {turns : Nat} (reaches : Reaches env (start e) turns m) :
    turns ≤ 2 * e.size := by
  have weight := reaches.turns_add_totalWeight_le
  simp only [start, Task.totalWeight, Task.weight] at weight
  omega

theorem Reaches.supplied {m : Machine} {turns : Nat} (reaches : Reaches env (start e) turns m) :
    m.Supplied :=
  supplied_of_height? reaches.height?_eq

/-- The machine comes to an end that tells the value of the tree, or why it has none. -/
theorem exists_reaches_value (env : ExactBindings) (e : Expr) :
    ∃ turns last, Reaches env (start e) turns last ∧
      match e.value env with
      | .ok (v, steps) => last = ⟨[], [v], steps.reverse⟩
      | .error cause => ∃ task tasks, last.tasks = task :: tasks ∧
          perform env task tasks last.values last.steps = .error cause := by
  obtain ⟨turns, last, reaches, ends⟩ := exists_reaches_end env (start e)
  rw [run_start] at ends
  refine ⟨turns, last, reaches, ?_⟩
  rcases ends with ⟨-, ended⟩ | ⟨task, tasks, cause, todo, failed, ended⟩
  · obtain ⟨⟨v, steps⟩, value, rfl⟩ := map_eq_ok_iff.mp ended
    rw [value]
  · rw [map_eq_error_iff.mp ended]
    exact ⟨task, tasks, todo, failed⟩

theorem value_ne_missingOperand (env : ExactBindings) (e : Expr) :
    e.value env ≠ .error .missingOperand := by
  intro underflow
  obtain ⟨turns, last, reaches, ends⟩ := exists_reaches_value env e
  rw [underflow] at ends
  obtain ⟨task, tasks, todo, failed⟩ := ends
  -- The error is that of a task which has found its operands.
  have supplied := reaches.supplied
  obtain ⟨_, values, steps⟩ := last
  cases todo
  exact supplied.perform_ne failed

/-- For every tree, whatever is in it, the machine gives the value and the steps that recursion
gives, or fails as recursion does.  It ends after at most two turns for each node, with that value
alone on the stack, or at a task that fails; in all states on the way the task to be done next finds
its operands on the stack.  The steps are told by names, values and symbols; a plus sign leaves no
step. -/
theorem evaluate_agrees_with_recursion (env : ExactBindings) (e : Expr) :
    evaluate env e = e.value env ∧
    (∃ turns last, Reaches env (start e) turns last ∧
      match e.value env with
      | .ok (v, steps) => last = ⟨[], [v], steps.reverse⟩
      | .error cause => ∃ task tasks, last.tasks = task :: tasks ∧
          perform env task tasks last.values last.steps = .error cause) ∧
    (∀ turns m, Reaches env (start e) turns m →
      turns ≤ 2 * e.size ∧ m.Supplied ∧ run env m = run env (start e)) ∧
    evaluate env e ≠ .error .missingOperand ∧
    (∀ name v, (Step.lookup name v).text = name ++ RawText.whole (" = " ++ v.text)) ∧
    (∀ symbol v, Step.sign symbol v =
      if symbol = "+" then (v, []) else (v.neg, [.negate v v.neg])) ∧
    (∀ v result, (Step.negate v result).text =
      RawText.whole ("-(" ++ v.text ++ ") = " ++ result.text)) ∧
    (∀ l symbol r result, (Step.apply l symbol r result).text =
      RawText.whole (l.text ++ " " ++ symbol ++ " " ++ r.text ++ " = " ++ result.text)) := by
  refine ⟨evaluate_eq_value env e, exists_reaches_value env e, ?_, ?_, fun _ _ => rfl,
    fun _ _ => rfl, fun _ _ => rfl, fun _ _ _ _ => rfl⟩
  · intro turns m reaches
    exact ⟨reaches.turns_le, reaches.supplied, reaches.run_eq.symm⟩
  · rw [evaluate_eq_value]
    exact value_ne_missingOperand env e

end Machine

end FormulaEditor
