import FormulaEditor.Evaluation.Answer
import FormulaEditor.Proofs.Evaluation.Machine

/-! # Expressions over the rationals

The rational that an expression stands for is defined here without reference to values, machines or
rounding.  Where the machine computes an exact value it is that rational, and no part of the tree
has been rounded: a binary number never becomes exact again.
-/

namespace FormulaEditor

/-! ## The rational of an expression -/

/-- The operator divides by zero, or raises zero to a negative power. -/
def Operator.HitsZero (op : Operator) (a b : Rat) : Prop :=
  (op = .divide ∧ b = 0) ∨ (op = .power ∧ a = 0 ∧ b < 0)

/-- The operator on the rationals; powers are taken for whole exponents only. -/
def Operator.onRat? (op : Operator) (a b : Rat) : Option Rat :=
  match op with
  | .plus => some (a + b)
  | .minus => some (a - b)
  | .times => some (a * b)
  | .divide => if b = 0 then none else some (a / b)
  | .power => if b.den = 1 ∧ ¬ (a = 0 ∧ b < 0) then some (a ^ b.num) else none
  | .openParen | .closeParen => none

namespace Expr

/-- The rational that the expression stands for. A variable stands for what it is bound to, or else
for its own value. -/
def exactValue? (bindings : Bindings) : Expr → Option Rat
  | .missing => none
  | .number n => n.toRat?
  | .variable id _ own => ((bindings.lookup id).getD own).toRat?
  | .unary symbol operand =>
    (operand.exactValue? bindings).map fun q => if symbol = "+" then q else -q
  | .binary symbol left right =>
    (left.exactValue? bindings).bind fun a => (right.exactValue? bindings).bind fun b =>
      (Operator.ofSymbol? symbol).bind fun op => op.onRat? a b

/-- Somewhere in the expression an operator divides by an exact zero, or raises one to a negative
power. -/
def HitsZero (bindings : Bindings) : Expr → Prop
  | .missing | .number _ | .variable _ _ _ => False
  | .unary _ operand => operand.HitsZero bindings
  | .binary symbol left right =>
    left.HitsZero bindings ∨ right.HitsZero bindings ∨
      ∃ op a b, Operator.ofSymbol? symbol = some op ∧ left.exactValue? bindings = some a ∧
        right.exactValue? bindings = some b ∧ op.HitsZero a b

/-- The expression and all expressions in it. -/
def parts : Expr → List Expr
  | .missing => [.missing]
  | .number n => [.number n]
  | .variable id name own => [.variable id name own]
  | .unary symbol operand => .unary symbol operand :: operand.parts
  | .binary symbol left right => .binary symbol left right :: (left.parts ++ right.parts)

/-- The values of the numbers and variables in the expression. -/
def numbers : Expr → List Number
  | .missing => []
  | .number n => [n]
  | .variable _ _ own => [own]
  | .unary _ operand => operand.numbers
  | .binary _ left right => left.numbers ++ right.numbers

theorem exactValue?_eq_none_of_hitsZero {bindings : Bindings} {e : Expr}
    (hits : e.HitsZero bindings) : e.exactValue? bindings = none := by
  induction e with
  | missing | number | «variable» => exact hits.elim
  | unary symbol operand ih =>
    rw [exactValue?, ih hits]
    rfl
  | binary symbol left right ihLeft ihRight =>
    rw [exactValue?]
    rcases hits with inLeft | inRight | ⟨op, a, b, found, hleft, hright, zero⟩
    · rw [ihLeft inLeft]
      rfl
    · rw [ihRight inRight]
      cases left.exactValue? bindings <;> rfl
    · rw [hleft, hright, found]
      rcases zero with ⟨rfl, rfl⟩ | ⟨rfl, rfl, negative⟩
      · rfl
      · simp [Operator.onRat?, negative]

end Expr

/-! ## Leaves -/

theorem Value.ofNumber_eq_ok_iff {n : Number} {q : Rat} :
    ofNumber n = .ok q ↔ n.toRat? = some q := by
  cases n with
  | int n => simp [ofNumber, Number.toRat?]
  | float x =>
    rw [ofNumber, Number.toRat?]
    cases x.shortestRat? <;> simp

theorem Number.toRat?_of_isFinite {n : Number} (finite : n.isFinite = true) :
    ∃ q, n.toRat? = some q := by
  cases n with
  | int n => exact ⟨n, rfl⟩
  | float x =>
    cases x with
    | finite negative mantissa exponent => exact ⟨_, rfl⟩
    | nan => cases finite
    | infinity negative => cases finite

theorem Bindings.toExact_cons (id : RawText) (n : Number) (rest : Bindings) :
    toExact ((id, n) :: rest) =
      (Value.ofNumber n).bind fun q => (toExact rest).map fun env => (id, q) :: env := by
  rw [toExact, List.mapM_cons]
  dsimp only
  cases Value.ofNumber n with
  | error cause => rfl
  | ok q =>
    change (toExact rest).bind (fun env => .ok ((id, q) :: env)) = _
    cases toExact rest <;> simp only [Except.bind, Except.map]

theorem Bindings.toExact_of_finite {bindings : Bindings}
    (finite : ∀ b ∈ bindings, b.2.isFinite = true) : ∃ env, bindings.toExact = .ok env := by
  induction bindings with
  | nil => exact ⟨[], rfl⟩
  | cons binding rest ih =>
    obtain ⟨q, rational⟩ := Number.toRat?_of_isFinite (finite binding (by simp))
    obtain ⟨env, made⟩ := ih fun b member => finite b (by simp [member])
    refine ⟨(binding.1, q) :: env, ?_⟩
    rw [toExact_cons, Value.ofNumber_eq_ok_iff.mpr rational, made]
    rfl

theorem Bindings.lookup_toExact {bindings : Bindings} {env : ExactBindings}
    (made : bindings.toExact = .ok env) (id : RawText) :
    (bindings.lookup id).map Number.toRat? = (env.lookup id).map some := by
  induction bindings generalizing env with
  | nil =>
    cases made
    rfl
  | cons binding rest ih =>
    obtain ⟨bound, n⟩ := binding
    rw [toExact_cons] at made
    obtain ⟨q, rational, made⟩ := bind_eq_ok_iff.mp made
    obtain ⟨env, restMade, rfl⟩ := map_eq_ok_iff.mp made
    rw [List.lookup_cons, List.lookup_cons]
    by_cases same : id == bound
    · rw [same]
      exact congrArg some (Value.ofNumber_eq_ok_iff.mp rational)
    · rw [Bool.not_eq_true] at same
      rw [same]
      exact ih restMade

/-- The value of a variable is exact. -/
theorem Step.valueOf_eq_exact {bindings : Bindings} {env : ExactBindings} (id : RawText)
    {own : Number} {own' : Rat} (made : bindings.toExact = .ok env)
    (rational : own.toRat? = some own') :
    ∃ q, valueOf env id own = .ok (.exact q) ∧
      ((bindings.lookup id).getD own).toRat? = some q := by
  rw [valueOf, Value.ofNumber_eq_ok_iff.mpr rational]
  have bound := Bindings.lookup_toExact made id
  cases found : env.lookup id with
  | none =>
    rw [found, Option.map_none, Option.map_eq_none_iff] at bound
    rw [bound]
    exact ⟨own', rfl, rational⟩
  | some q =>
    rw [found, Option.map_some, Option.map_eq_some_iff] at bound
    obtain ⟨n, given, value⟩ := bound
    rw [given]
    exact ⟨q, rfl, value⟩

/-! ## Operations on exact operands -/

namespace Value

theorem wholePower_eq (a : Rat) (n : Int) : wholePower a n = a ^ n := by
  rw [wholePower]
  cases n with
  | ofNat n =>
    have notNegative : ¬ Int.ofNat n < 0 := Int.not_lt.mpr (Int.natCast_nonneg n)
    rw [if_neg notNegative]
    rfl
  | negSucc n =>
    rw [if_pos (Int.negSucc_lt_zero n)]
    rfl

/-- What is computed from rounded operands stays a binary number if the rest keeps it one. -/
theorem bind_toBinary64_ne_exact {a b : Value} {q : Rat}
    {next : Binary64 → Binary64 → Except EvalError Value}
    (stays : ∀ x y, next x y ≠ .ok (.exact q)) :
    (do let x ← a.toBinary64; let y ← b.toBinary64; next x y) ≠ .ok (.exact q) := by
  intro same
  obtain ⟨x, -, same⟩ := bind_eq_ok_iff.mp same
  obtain ⟨y, -, same⟩ := bind_eq_ok_iff.mp same
  exact stays x y same

theorem combine_eq_exact {onExact : Rat → Rat → Rat}
    {onBinary : Binary64 → Binary64 → Except EvalError Binary64} {a b : Value} {q : Rat}
    (combined : combine onExact onBinary a b = .ok (.exact q)) :
    ∃ p r, a = .exact p ∧ b = .exact r ∧ onExact p r = q := by
  have stays : ∀ x y, (onBinary x y).map Value.binary ≠ .ok (.exact q) := by
    intro x y same
    obtain ⟨z, -, same⟩ := map_eq_ok_iff.mp same
    cases same
  cases a with
  | binary x => exact absurd combined (bind_toBinary64_ne_exact stays)
  | exact p =>
    cases b with
    | binary y => exact absurd combined (bind_toBinary64_ne_exact stays)
    | exact r =>
      cases combined
      exact ⟨p, r, rfl, rfl, rfl⟩

theorem div_eq_exact {a b : Value} {q : Rat} (divided : a.div b = .ok (.exact q)) :
    ∃ p r, a = .exact p ∧ b = .exact r ∧ Operator.divide.onRat? p r = some q := by
  rw [div] at divided
  split at divided
  · cases divided
  · next nonzero =>
    obtain ⟨p, r, rfl, rfl, rfl⟩ := combine_eq_exact divided
    have nonzero : r ≠ 0 := by simpa [isZero] using nonzero
    exact ⟨p, r, rfl, rfl, if_neg nonzero⟩

theorem exactPower?_eq_some {a b : Value} {q : Rat} (powered : exactPower? a b = some q) :
    ∃ p r, a = .exact p ∧ b = .exact r ∧ r.den = 1 ∧ p ^ r.num = q := by
  cases a with
  | binary x => cases powered
  | exact p =>
    cases b with
    | binary y => cases powered
    | exact r =>
      rw [exactPower?] at powered
      split at powered
      · next bounded =>
        cases powered
        exact ⟨p, r, rfl, rfl, bounded.1, (wholePower_eq p r.num).symm⟩
      · cases powered

theorem roundedPower_ne_exact (a b : Value) (q : Rat) : a.roundedPower b ≠ .ok (.exact q) := by
  rw [roundedPower]
  refine bind_toBinary64_ne_exact fun x y => ?_
  cases Binary64.power x y with
  | ok z =>
    intro same
    cases same
  | error fault =>
    intro same
    cases same

theorem power_eq_exact {a b : Value} {q : Rat} (powered : a.power b = .ok (.exact q)) :
    ∃ p r, a = .exact p ∧ b = .exact r ∧ Operator.power.onRat? p r = some q := by
  rw [power] at powered
  split at powered
  · cases powered
  · next noZero =>
    cases found : exactPower? a b with
    | none =>
      rw [found] at powered
      exact absurd powered (roundedPower_ne_exact a b q)
    | some q' =>
      rw [found] at powered
      cases powered
      obtain ⟨p, r, rfl, rfl, whole, rfl⟩ := exactPower?_eq_some found
      have noZero : ¬ (p = 0 ∧ r < 0) := by simpa [isZero, isBelowZero] using noZero
      exact ⟨p, r, rfl, rfl, if_pos ⟨whole, noZero⟩⟩

/-- An exact result comes from exact operands, and is the result of the operator on rationals. -/
theorem apply_eq_exact {symbol : String} {a b : Value} {q : Rat}
    (applied : apply symbol a b = .ok (.exact q)) :
    ∃ op p r, Operator.ofSymbol? symbol = some op ∧ a = .exact p ∧ b = .exact r ∧
      op.onRat? p r = some q := by
  rw [apply, operation?] at applied
  cases found : Operator.ofSymbol? symbol with
  | none =>
    rw [found] at applied
    cases applied
  | some op =>
    rw [found] at applied
    refine ⟨op, ?_⟩
    cases op with
    | plus =>
      obtain ⟨p, r, ha, hb, rfl⟩ := combine_eq_exact applied
      exact ⟨p, r, rfl, ha, hb, rfl⟩
    | minus =>
      obtain ⟨p, r, ha, hb, rfl⟩ := combine_eq_exact applied
      exact ⟨p, r, rfl, ha, hb, rfl⟩
    | times =>
      obtain ⟨p, r, ha, hb, rfl⟩ := combine_eq_exact applied
      exact ⟨p, r, rfl, ha, hb, rfl⟩
    | divide =>
      obtain ⟨p, r, ha, hb, result⟩ := div_eq_exact applied
      exact ⟨p, r, rfl, ha, hb, result⟩
    | power =>
      obtain ⟨p, r, ha, hb, result⟩ := power_eq_exact applied
      exact ⟨p, r, rfl, ha, hb, result⟩
    | openParen => cases applied
    | closeParen => cases applied

end Value

end FormulaEditor
