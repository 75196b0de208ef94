import FormulaEditor.Proofs.Evaluation.Substitution

/-! # Bindings without a variable

Only the values of its own variables enter into the value of a formula.  But all bindings are made
exact before anything is computed, so a value that is not finite is told as the reason why there is
none, even if no variable is bound to it.
-/

namespace FormulaEditor

/-- The number, if it is none to compute with. -/
def Number.nonFinite? : Number → Option Binary64
  | .int _ => none
  | .float x => if x.isFinite then none else some x

/-- The first value that is not finite, in the order of the bindings. -/
def Bindings.firstNonFinite? (bindings : Bindings) : Option Binary64 :=
  bindings.findSome? fun binding => binding.2.nonFinite?

variable {bindings bindings' : Bindings} {env env' : ExactBindings} {x : Binary64}

/-! ## What is bound -/

theorem Number.nonFinite?_eq_none_iff {n : Number} : n.nonFinite? = none ↔ n.isFinite = true := by
  cases n <;> simp [nonFinite?, isFinite]

theorem Number.isFinite_of_nonFinite? {n : Number} (found : n.nonFinite? = some x) :
    x.isFinite = false := by
  cases n with
  | int n => cases found
  | float y =>
    cases finite : y.isFinite with
    | true => simp [nonFinite?, finite] at found
    | false =>
      simp only [nonFinite?, finite, Bool.false_eq_true, if_false, Option.some.injEq] at found
      rw [← found, finite]

theorem Value.ofNumber_of_nonFinite {n : Number} (found : n.nonFinite? = some x) :
    ofNumber n = .error (.nonFinite x) := by
  cases n with
  | int n => cases found
  | float y =>
    cases y <;> simp_all [Number.nonFinite?, Binary64.isFinite, ofNumber, Binary64.shortestRat?]

namespace Bindings

theorem isFinite_of_firstNonFinite? (found : bindings.firstNonFinite? = some x) :
    x.isFinite = false := by
  obtain ⟨binding, -, found⟩ := List.exists_of_findSome?_eq_some found
  exact Number.isFinite_of_nonFinite? found

/-- The first value that is not finite is the error, wherever it stands. -/
theorem toExact_of_nonFinite (found : bindings.firstNonFinite? = some x) :
    bindings.toExact = .error (.nonFinite x) := by
  induction bindings with
  | nil => cases found
  | cons binding rest ih =>
    obtain ⟨id, n⟩ := binding
    rw [firstNonFinite?, List.findSome?_cons] at found
    rw [toExact_cons]
    cases first : n.nonFinite? with
    | some y =>
      simp only [first, Option.some.injEq] at found
      rw [Value.ofNumber_of_nonFinite first, found]
      rfl
    | none =>
      -- A finite value in front is made exact without an error.
      simp only [first] at found
      obtain ⟨q, rational⟩ := Number.toRat?_of_isFinite (Number.nonFinite?_eq_none_iff.mp first)
      rw [Value.ofNumber_eq_ok_iff.mpr rational, ih found]
      rfl

theorem exists_toExact (allFinite : bindings.firstNonFinite? = none) :
    ∃ env, bindings.toExact = .ok env := by
  refine toExact_of_finite fun binding member => ?_
  rw [firstNonFinite?, List.findSome?_eq_none_iff] at allFinite
  exact Number.nonFinite?_eq_none_iff.mp (allFinite binding member)

/-- Bindings of the same rational to an identifier are the same once they are exact. -/
theorem lookup_toExact_eq (made : bindings.toExact = .ok env) (made' : bindings'.toExact = .ok env')
    {id : RawText}
    (agree : (bindings.lookup id).map Number.toRat? = (bindings'.lookup id).map Number.toRat?) :
    env.lookup id = env'.lookup id := by
  rw [lookup_toExact made, lookup_toExact made'] at agree
  exact Option.map_injective (fun _ _ => Option.some.inj) agree

end Bindings

/-! ## Reasons

Only the making exact of numbers tells of one that is not finite; the operations never do.
-/

theorem bind_eq_error_iff {ε α β : Type} {computation : Except ε α} {next : α → Except ε β}
    {cause : ε} : computation.bind next = .error cause ↔
      computation = .error cause ∨ ∃ a, computation = .ok a ∧ next a = .error cause := by
  cases computation <;> simp [Except.bind]

namespace Value

theorem toBinary64_ne_nonFinite (v : Value) : v.toBinary64 ≠ .error (.nonFinite x) := by
  cases v with
  | exact q =>
    rw [toBinary64]
    split <;> simp
  | binary y => simp [toBinary64]

theorem combine_ne_nonFinite {onExact : Rat → Rat → Rat}
    {onBinary : Binary64 → Binary64 → Except EvalError Binary64}
    (onNumbers : ∀ y z, onBinary y z ≠ .error (.nonFinite x)) (a b : Value) :
    combine onExact onBinary a b ≠ .error (.nonFinite x) := by
  have rounded : (a.toBinary64.bind fun y => b.toBinary64.bind fun z =>
      (onBinary y z).map Value.binary) ≠ .error (.nonFinite x) := by
    simp [bind_eq_error_iff, map_eq_error_iff, toBinary64_ne_nonFinite, onNumbers]
  cases a with
  | binary y => exact rounded
  | exact p =>
    cases b with
    | binary z => exact rounded
    | exact q => simp [combine]

theorem div_ne_nonFinite (a b : Value) : div a b ≠ .error (.nonFinite x) := by
  rw [div]
  split
  · simp
  · refine combine_ne_nonFinite (fun y z => ?_) a b
    rw [binaryQuotient]
    split <;> simp

theorem roundedPower_ne_nonFinite (a b : Value) : roundedPower a b ≠ .error (.nonFinite x) := by
  change a.toBinary64.bind (fun y => b.toBinary64.bind fun z => _) ≠ _
  simp only [ne_eq, bind_eq_error_iff, toBinary64_ne_nonFinite, false_or, not_exists, not_and]
  intro y _ z _
  cases Binary64.power y z with
  | ok z => simp [pure, Except.pure]
  | error fault => cases fault <;> simp [powerError]

theorem power_ne_nonFinite (a b : Value) : power a b ≠ .error (.nonFinite x) := by
  rw [power]
  split
  · simp
  · cases exactPower? a b with
    | some q => simp
    | none => exact roundedPower_ne_nonFinite a b

theorem apply_ne_nonFinite (symbol : String) (a b : Value) :
    apply symbol a b ≠ .error (.nonFinite x) := by
  rw [apply, operation?]
  cases Operator.ofSymbol? symbol with
  | none => simp
  | some op =>
    cases op with
    | plus | minus | times => exact combine_ne_nonFinite (fun _ _ => by simp) a b
    | divide => exact div_ne_nonFinite a b
    | power => exact power_ne_nonFinite a b
    | openParen | closeParen => simp

theorem toResult_ne_nonFinite (v : Value) : v.toResult ≠ .error (.nonFinite x) := by
  cases v with
  | binary y =>
    rw [toResult]
    split <;> simp
  | exact q =>
    rw [toResult]
    split
    · simp
    · simp [map_eq_error_iff, toBinary64_ne_nonFinite]

end Value

theorem EvalError.nonFinite_message_eq (x : Binary64) :
    (nonFinite x).message = "Wartość nieskończona: " ++ x.text := rfl

theorem EvalError.message_ne_nonFinite {cause : EvalError} (numeric : cause.IsNumeric)
    (other : ∀ x, cause ≠ .nonFinite x) : cause.message ≠ (nonFinite x).message := by
  intro same
  -- Two letters tell it from all other reasons.
  have start := congrArg (fun message => message.toList.take 2) same
  rw [nonFinite_message_eq, String.toList_append,
    List.take_append_of_le_length (by decide +kernel)] at start
  cases cause with
  | malformed | unknownOperator | missingNode | missingOperand | unwritable => exact numeric
  | nonFinite y => exact other y rfl
  | _ => exact absurd start (by decide +kernel)

/-- The texts of numbers that are not finite tell them apart. -/
theorem Binary64.text_inj_of_nonFinite {y : Binary64} (infinite : x.isFinite = false)
    (infinite' : y.isFinite = false) (same : x.text = y.text) : x = y := by
  rcases x with _ | negative | _
  · rcases y with _ | negative' | _
    · rfl
    · cases negative' <;> revert same <;> decide
    · cases infinite'
  · rcases y with _ | negative' | _
    · cases negative <;> revert same <;> decide
    · cases negative <;> cases negative' <;> first | rfl | (revert same; decide)
    · cases infinite'
  · cases infinite

/-! ## Trees -/

namespace Expr

/-- The value of a tree depends on what its own variables are bound to. -/
theorem value_of_agree {e : Expr}
    (agree : ∀ id name own, .variable id name own ∈ e.leaves → env.lookup id = env'.lookup id) :
    e.value env = e.value env' := by
  induction e with
  | missing | number n => rfl
  | «variable» id name own =>
    rw [value, value, Step.valueOf, Step.valueOf, agree id name own List.mem_cons_self]
  | unary symbol operand ih => rw [value, value, ih agree]
  | binary symbol left right ihLeft ihRight =>
    rw [value, value,
      ihLeft fun id name own leaf => agree id name own (List.mem_append_left _ leaf),
      ihRight fun id name own leaf => agree id name own (List.mem_append_right _ leaf)]

theorem evaluate_of_nonFinite (found : bindings.firstNonFinite? = some x) (e : Expr) :
    e.evaluate bindings = .error (.nonFinite x) := by
  rw [evaluate, Bindings.toExact_of_nonFinite found]
  rfl

theorem evaluate_of_agree {e : Expr} (made : bindings.toExact = .ok env)
    (made' : bindings'.toExact = .ok env')
    (agree : ∀ id name own, .variable id name own ∈ e.leaves →
      (bindings.lookup id).map Number.toRat? = (bindings'.lookup id).map Number.toRat?) :
    e.evaluate bindings = e.evaluate bindings' := by
  have same : e.value env = e.value env' := value_of_agree fun id name own leaf =>
    Bindings.lookup_toExact_eq made made' (agree id name own leaf)
  rw [evaluate, evaluate, made, made']
  change (Machine.evaluate env e).bind _ = (Machine.evaluate env' e).bind _
  rw [Machine.evaluate_eq_value, Machine.evaluate_eq_value, same]

/-- Computing with finite numbers tells of none that is not finite. -/
theorem computed_ne_nonFinite {e : Expr} (finite : ∀ n ∈ e.numbers, n.isFinite = true) :
    e.computed env ≠ .error (.nonFinite x) := by
  induction e with
  | missing => simp [computed_missing]
  | number n =>
    obtain ⟨q, rational⟩ := Number.toRat?_of_isFinite (finite n (by simp [numbers]))
    simp [computed_number, Value.ofNumber_eq_ok_iff.mpr rational, Except.map]
  | «variable» id name own =>
    obtain ⟨q, rational⟩ := Number.toRat?_of_isFinite (finite own (by simp [numbers]))
    simp [computed_variable, Step.valueOf, Value.ofNumber_eq_ok_iff.mpr rational, Except.map]
  | unary symbol operand ih =>
    rw [computed_unary, ne_eq, map_eq_error_iff]
    exact ih finite
  | binary symbol left right ihLeft ihRight =>
    have inLeft := ihLeft fun n member => finite n (by simp [numbers, member])
    have inRight := ihRight fun n member => finite n (by simp [numbers, member])
    simp [computed_binary, bind_eq_error_iff, inLeft, inRight, Value.apply_ne_nonFinite]

theorem evaluate_ne_nonFinite {e : Expr} (finite : ∀ n ∈ e.numbers, n.isFinite = true)
    (made : bindings.toExact = .ok env) : e.evaluate bindings ≠ .error (.nonFinite x) := by
  cases ended : e.computed env with
  | error cause =>
    rw [evaluate_of_error made ended]
    rintro ⟨⟩
    exact computed_ne_nonFinite finite ended
  | ok v =>
    obtain ⟨steps, evaluated⟩ := evaluate_of_ok made ended
    rw [evaluated, ne_eq, map_eq_error_iff]
    exact v.toResult_ne_nonFinite

theorem mem_leaves_of_mem_numbers {e : Expr} {n : Number} (member : n ∈ e.numbers) :
    .number n ∈ e.leaves ∨ ∃ id name, .variable id name n ∈ e.leaves := by
  induction e with
  | missing => cases member
  | number m | «variable» id name own => simp_all [numbers, leaves]
  | unary symbol operand ih => exact ih member
  | binary symbol left right ihLeft ihRight =>
    rw [numbers, List.mem_append] at member
    simp only [leaves, List.mem_append]
    grind

theorem finite_numbers_of_ofTokens {f : Formula} {tree : Expr} (valid : ∀ t ∈ f, t.WellFormed)
    (read : ofTokens f = .ok tree) : ∀ n ∈ tree.numbers, n.isFinite = true := by
  intro n member
  rcases mem_leaves_of_mem_numbers member with leaf | ⟨id, name, leaf⟩
  · exact valid _ (number_mem_of_ofTokens read leaf)
  · exact variablesFinite_of_ofTokens valid read id name n leaf

end Expr

/-! ## Verdicts -/

theorem Verdict.unevaluable_inj {reason reason' : String} :
    unevaluable reason = unevaluable reason' ↔ reason = reason' := by
  simp [unevaluable]

namespace Formula

variable {f : Formula} {tree : Expr}

theorem evaluate_eq_of_refused {error : ParseError} (refused : Expr.ofTokens f = .error error) :
    f.evaluate bindings = f.evaluate bindings' := by
  rw [evaluate, evaluate, outcome, outcome, refused]

theorem evaluate_of_nonFinite (read : Expr.ofTokens f = .ok tree)
    (found : bindings.firstNonFinite? = some x) :
    f.evaluate bindings = .ok (.unevaluable (EvalError.nonFinite x).message) := by
  rw [evaluate, outcome, read]
  dsimp only
  rw [Expr.evaluate_of_nonFinite found]
  rfl

theorem evaluate_ne_nonFinite (valid : ∀ t ∈ f, t.WellFormed) (read : Expr.ofTokens f = .ok tree)
    (allFinite : bindings.firstNonFinite? = none) :
    f.evaluate bindings ≠ .ok (.unevaluable (EvalError.nonFinite x).message) := by
  obtain ⟨env, made⟩ := Bindings.exists_toExact allFinite
  rw [evaluate, outcome, read]
  dsimp only
  cases evaluated : tree.evaluate bindings with
  | ok answer => simp [Verdict.ofAnswer, Verdict.unevaluable]
  | error cause =>
    have numeric := (Expr.isComplete_of_ofTokens read).failsOnNumbers_evaluate bindings _ evaluated
    have finite := Expr.finite_numbers_of_ofTokens valid read
    have other : ∀ y, cause ≠ .nonFinite y := fun y same =>
      Expr.evaluate_ne_nonFinite finite made (same ▸ evaluated)
    have told := EvalError.message_ne_nonFinite (x := x) numeric other
    simp [numeric.isReported, Verdict.unevaluable_inj, told]

theorem evaluate_eq_iff_of_read (valid : ∀ t ∈ f, t.WellFormed)
    (read : Expr.ofTokens f = .ok tree)
    (agree : ∀ id name own, .variable id name own ∈ f →
      (bindings.lookup id).map Number.toRat? = (bindings'.lookup id).map Number.toRat?) :
    f.evaluate bindings = f.evaluate bindings' ↔
      bindings.firstNonFinite? = bindings'.firstNonFinite? := by
  cases found : bindings.firstNonFinite? with
  | none =>
    cases found' : bindings'.firstNonFinite? with
    | none =>
      obtain ⟨env, made⟩ := Bindings.exists_toExact found
      obtain ⟨env', made'⟩ := Bindings.exists_toExact found'
      have same := Expr.evaluate_of_agree made made' fun id name own leaf =>
        agree id name own (Expr.variable_mem_of_ofTokens read leaf)
      refine iff_of_true ?_ rfl
      rw [evaluate, evaluate, outcome, outcome, read]
      dsimp only
      rw [same]
    | some y =>
      rw [evaluate_of_nonFinite read found']
      exact iff_of_false (evaluate_ne_nonFinite valid read found) (by simp)
  | some x =>
    rw [evaluate_of_nonFinite read found]
    cases found' : bindings'.firstNonFinite? with
    | none => exact iff_of_false (evaluate_ne_nonFinite valid read found').symm (by simp)
    | some y =>
      -- Both verdicts tell a value, and the texts of the values tell them apart.
      rw [evaluate_of_nonFinite read found', Except.ok.injEq, Verdict.unevaluable_inj,
        EvalError.nonFinite_message_eq, EvalError.nonFinite_message_eq, String.append_right_inj,
        Option.some.injEq]
      have infinite := Bindings.isFinite_of_firstNonFinite? found
      have infinite' := Bindings.isFinite_of_firstNonFinite? found'
      exact ⟨Binary64.text_inj_of_nonFinite infinite infinite', congrArg Binary64.text⟩

/-- Bindings that agree on the variables of a row give it the same verdict just if the row is no
expression or they have the same first value that is not finite, as when all values are finite.
For the row of an expression a value that is not finite is the reason that is told, whether a
variable is bound to it or not. -/
theorem evaluate_eq_iff_of_agree (valid : ∀ t ∈ f, t.WellFormed)
    (agree : ∀ id name own, .variable id name own ∈ f →
      (bindings.lookup id).map Number.toRat? = (bindings'.lookup id).map Number.toRat?) :
    (f.evaluate bindings = f.evaluate bindings' ↔
      ∀ tree, Expr.ofTokens f = .ok tree → bindings.firstNonFinite? = bindings'.firstNonFinite?) ∧
    ∀ tree x, Expr.ofTokens f = .ok tree → bindings.firstNonFinite? = some x →
      f.evaluate bindings = .ok (.unevaluable (EvalError.nonFinite x).message) := by
  refine ⟨⟨fun same tree read => ?_, fun same => ?_⟩, fun tree x => evaluate_of_nonFinite⟩
  · exact (evaluate_eq_iff_of_read valid read agree).mp same
  · cases read : Expr.ofTokens f with
    | error error => exact evaluate_eq_of_refused read
    | ok tree => exact (evaluate_eq_iff_of_read valid read agree).mpr (same tree read)

/-- The row `x + 1`. -/
def successor : Formula :=
  [.variable (.whole "17") (.whole "x") (.int 8), .operator .plus, .number (.int 1)]

/-- Finite bindings of another identifier, and a whole number written with a point, do not change
the verdict. -/
theorem evaluate_successor_eq :
    successor.evaluate [(.whole "17", .int 3), (.whole "18", .int 5)] =
      successor.evaluate [(.whole "17", .float (.finite false 0x18000000000000 (-51)))] := by
  have valid : ∀ t ∈ successor, t.WellFormed := by decide
  refine (evaluate_eq_iff_of_agree valid fun id name own member => ?_).1.mpr fun _ _ => by decide
  obtain ⟨rfl, -, -⟩ : id = .whole "17" ∧ name = .whole "x" ∧ own = .int 8 := by
    simpa [successor] using member
  decide +kernel

/-- An infinite value that is bound to another identifier does. -/
theorem evaluate_successor_ne :
    (∀ t ∈ successor, t.WellFormed) ∧
    (∀ id name own, .variable id name own ∈ successor →
      List.lookup id [(.whole "17", .int 3)] =
        List.lookup id [(.whole "17", .int 3), (.whole "18", Number.float (.infinity false))]) ∧
    successor.evaluate [(.whole "17", .int 3)] ≠
      successor.evaluate [(.whole "17", .int 3), (.whole "18", .float (.infinity false))] := by
  refine ⟨by decide, fun id name own member => ?_, fun same => ?_⟩
  · obtain ⟨rfl, -, -⟩ : id = .whole "17" ∧ name = .whole "x" ∧ own = .int 8 := by
      simpa [successor] using member
    decide
  · have sameStatus := congrArg (fun verdict => verdict.toOption.map Verdict.status) same
    revert sameStatus
    decide +kernel

end Formula

end FormulaEditor
