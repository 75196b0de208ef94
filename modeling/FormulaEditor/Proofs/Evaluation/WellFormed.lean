import FormulaEditor.Proofs.Evaluation.Numeric
import FormulaEditor.Proofs.Grammar.Refusal

/-! # Verdicts are well formed

Whatever the tokens and the bindings are, evaluating a formula gives a verdict, and its fields fit
together.  Only a number of too many digits behind a complete expression lets the evaluation down.
-/

namespace FormulaEditor

/-! ## Trees read from tokens -/

namespace Grammar

theorem isSome_operation?_sum (symbol : SumSymbol) :
    (Value.operation? symbol.operator.symbol).isSome := by
  cases symbol <;> rfl

theorem isSome_operation?_factor (symbol : FactorSymbol) :
    (Value.operation? symbol.operator.symbol).isSome := by
  cases symbol <;> rfl

/-- The meaning is a complete tree, or makes one of the complete tree in front. -/
def MeansComplete : (c : Category) → Derivation.Meaning c → Prop
  | .moreTerms, extend | .moreFactors, extend =>
    ∀ left : Expr, left.IsComplete → Expr.IsComplete (extend left)
  | .expression, tree | .term, tree | .signed, tree | .power, tree | .atom, tree =>
    Expr.IsComplete tree

theorem Derivation.meansComplete {c : Category} (d : Derivation c) : MeansComplete c d.tree := by
  induction d with
  | number value => exact trivial
  | named id name value => exact trivial
  | group inner ih => exact ih
  | single base ih => exact ih
  | raised base exponent ihBase ihExponent => exact ⟨rfl, ihBase, ihExponent⟩
  | unsigned p ih => exact ih
  | sign symbol operand ih => exact ih
  | term first more ihFirst ihMore => exact ihMore _ ihFirst
  | noFactor => exact fun left complete => complete
  | factor symbol next more ihNext ihMore =>
    intro left complete
    exact ihMore _ ⟨isSome_operation?_factor symbol, complete, ihNext⟩
  | expression first more ihFirst ihMore => exact ihMore _ ihFirst
  | noTerm => exact fun left complete => complete
  | summand symbol next more ihNext ihMore =>
    intro left complete
    exact ihMore _ ⟨isSome_operation?_sum symbol, complete, ihNext⟩

end Grammar

theorem Expr.isComplete_of_ofTokens {f : Formula} {tree : Expr}
    (read : Expr.ofTokens f = .ok tree) : tree.IsComplete := by
  obtain ⟨d, -, -, rfl⟩ := Grammar.ofTokens_eq_ok_iff.mp read
  exact d.meansComplete

/-! ## Answers -/

/-- The number is finite, and whole if it is exact. -/
def Answer.IsProper (answer : Answer) : Prop :=
  answer.value.isFinite = true ∧ (answer.isExact = true → ∃ n, answer.value = .int n)

theorem Value.isFinite_of_toBinary64 {q : Rat} {x : Binary64}
    (rounded : (Value.exact q).toBinary64 = .ok x) : x.isFinite = true := by
  rw [toBinary64] at rounded
  split at rounded
  · next finite =>
    cases rounded
    exact finite
  · cases rounded

theorem Value.isFinite_of_toResult {v : Value} {n : Number} {isExact : Bool}
    (result : v.toResult = .ok (n, isExact)) :
    n.isFinite = true ∧ (isExact = true → ∃ i, n = .int i) := by
  cases v with
  | binary x =>
    rw [toResult] at result
    split at result
    · next finite =>
      cases result
      exact ⟨finite, fun exactly => absurd exactly Bool.false_ne_true⟩
    · cases result
  | exact q =>
    rw [toResult] at result
    split at result
    · cases result
      exact ⟨rfl, fun _ => ⟨q.num, rfl⟩⟩
    · obtain ⟨x, rounded, same⟩ := map_eq_ok_iff.mp result
      cases same
      exact ⟨isFinite_of_toBinary64 rounded, fun exactly => absurd exactly Bool.false_ne_true⟩

theorem Expr.isProper_of_evaluate {e : Expr} {bindings : Bindings} {answer : Answer}
    (answered : e.evaluate bindings = .ok answer) : answer.IsProper := by
  obtain ⟨env, v, -, -, result⟩ := exists_computed_of_evaluate answered
  exact Value.isFinite_of_toResult result

/-! ## Reasons -/

theorem String.append_ne_empty {a : String} (b : String) (told : a ≠ "") : a ++ b ≠ "" := by
  intro empty
  exact told (String.append_eq_empty_iff.mp empty).1

theorem ParseFault.message_ne_empty (fault : ParseFault) : fault.message ≠ "" := by
  cases fault with
  | unexpected position label =>
    refine String.append_ne_empty _ (String.append_ne_empty _ (String.append_ne_empty _ ?_))
    decide
  | textOperand s => exact String.append_ne_empty _ (by decide)
  | operatorOperand label => exact String.append_ne_empty _ (by decide)
  | empty | unexpectedEnd | emptyParens | unclosedParen | tooDeep | unwritable => decide

theorem EvalError.message_ne_empty (cause : EvalError) : cause.message ≠ "" := by
  cases cause with
  | malformed fault => exact fault.message_ne_empty
  | nonFinite x => exact String.append_ne_empty _ (by decide)
  | unknownOperator symbol => exact String.append_ne_empty _ (by decide)
  | _ => decide

/-! ## Verdicts -/

/-- The fields of a verdict fit together: either there is a finite value and no error, or there is
an error with a text and nothing else. Only whole numbers are exact. -/
def Verdict.WellFormed (v : Verdict) : Prop :=
  ((v.status = .ok ∧ (∃ n, v.value = some n ∧ n.isFinite = true) ∧ v.error = none) ∨
    (v.status = .unevaluable ∧ v.value = none ∧ v.isExact = false ∧ v.steps = [] ∧
      ∃ text, v.error = some text ∧ text ≠ "")) ∧
  (v.isExact = true → ∃ i, v.value = some (.int i))

theorem Verdict.wellFormed_ofAnswer {answer : Answer} (proper : answer.IsProper) :
    (Verdict.ofAnswer answer).WellFormed := by
  refine ⟨.inl ⟨rfl, ⟨answer.value, rfl, proper.1⟩, rfl⟩, fun isExact => ?_⟩
  obtain ⟨i, value⟩ := proper.2 isExact
  exact ⟨i, congrArg some value⟩

theorem Verdict.wellFormed_unevaluable {reason : String} (told : reason ≠ "") :
    (Verdict.unevaluable reason).WellFormed :=
  ⟨.inr ⟨rfl, rfl, rfl, rfl, reason, rfl, told⟩, nofun⟩

namespace Formula

variable {f : Formula} {bindings : Bindings}

/-- If the outcome for a formula is no answer, its cause is reported, unless the label of a token
would have to be told that has none. -/
theorem isReported_of_outcome {cause : EvalError} (failed : f.outcome bindings = .error cause)
    (labelled : ¬ Grammar.UnwritableBehind f) : cause.family.isReported = true := by
  rw [outcome] at failed
  cases read : Expr.ofTokens f with
  | error e =>
    rw [read] at failed
    cases failed
    rw [Grammar.family_of_fault fun fault =>
      labelled (Grammar.unwritableBehind_iff.mpr ⟨e, read, fault⟩)]
    rfl
  | ok tree =>
    rw [read] at failed
    have complete := Expr.isComplete_of_ofTokens read
    exact (complete.failsOnNumbers_evaluate bindings cause failed).isReported

theorem isProper_of_outcome {answer : Answer}
    (answered : f.outcome bindings = .ok answer) : answer.IsProper := by
  rw [outcome] at answered
  cases read : Expr.ofTokens f with
  | error e =>
    rw [read] at answered
    cases answered
  | ok tree =>
    rw [read] at answered
    exact Expr.isProper_of_evaluate answered

/-- A formula has a verdict, and a well-formed one, unless the label of a token is missing: every other
cause of a missing answer is reported. -/
theorem exists_wellFormed_verdict (labelled : ¬ Grammar.UnwritableBehind f) (bindings : Bindings) :
    ∃ verdict, f.evaluate bindings = .ok verdict ∧ verdict.WellFormed := by
  rw [evaluate]
  cases found : f.outcome bindings with
  | ok answer => exact ⟨_, rfl, Verdict.wellFormed_ofAnswer (isProper_of_outcome found)⟩
  | error cause =>
    have reported := isReported_of_outcome found labelled
    refine ⟨.unevaluable cause.message, if_pos reported, ?_⟩
    exact Verdict.wellFormed_unevaluable cause.message_ne_empty

/-- Evaluating a formula whose whole numbers are not too long always gives a verdict, and a
well-formed one. While the machine runs on a tree that was read from tokens, it meets no gap, no
unknown operator and no empty stack. -/
theorem evaluate_wellFormed (f : Formula) (bindings : Bindings) :
    ((∀ n : Int, .number (.int n) ∈ f → n.natAbs < 10 ^ integerDigitLimit) →
      ∃ verdict, f.evaluate bindings = .ok verdict ∧ verdict.WellFormed) ∧
    ¬ ∃ tree env cause, Expr.ofTokens f = .ok tree ∧ Machine.evaluate env tree = .error cause ∧
      (cause = .missingNode ∨ cause = .missingOperand ∨
        ∃ symbol, cause = .unknownOperator symbol) := by
  constructor
  · intro short
    have labelled := Grammar.not_unwritableBehind (forall_isWritable_iff.mpr short)
    exact exists_wellFormed_verdict labelled bindings
  · rintro ⟨tree, env, cause, read, failed, foreign⟩
    have complete := Expr.isComplete_of_ofTokens read
    have numeric : cause.IsNumeric := complete.failsOnNumbers_machine env cause failed
    rcases foreign with rfl | rfl | ⟨symbol, rfl⟩ <;> exact numeric

/-- The row `1 2` is no expression, and the verdict on it says so. -/
theorem evaluate_wellFormed_oneTwo :
    ∃ verdict, evaluate [.number (.int 1), .number (.int 2)] [] = .ok verdict ∧
      verdict.WellFormed := by
  have writable : ∀ t ∈ [Token.number (.int 1), .number (.int 2)], t.IsWritable := by decide
  exact (evaluate_wellFormed _ []).1 (forall_isWritable_iff.mp writable)

end Formula

end FormulaEditor
