import FormulaEditor.Expression.OfTokens

/-! # What the readers of expressions do

The readers carry a proof that they leave fewer tokens. Here they are described without it: `Reads`
says that a result is a tree with the tokens left behind it, and each reader has one lemma that says
when it reads what. Nothing else about the readers is used later on.
-/

namespace FormulaEditor.Grammar

open FormulaEditor.Expr (Reader Reading Binding binding? signFloor operand climb read ofTokens)

variable {inner : Reader} {floor : Nat} {ts rest final : List Token} {left tree : Expr}

/-- The result is a tree, and these tokens are left behind it. -/
def Reads {bound : Nat} (result : Except ParseError (Reading bound)) (tree : Expr)
    (rest : List Token) : Prop :=
  ∃ shorter, result = .ok ⟨tree, rest, shorter⟩

/-- A result is one tree with one rest. -/
theorem Reads.unique {bound : Nat} {result : Except ParseError (Reading bound)} {tree' : Expr}
    {rest' : List Token} (reads : Reads result tree rest) (reads' : Reads result tree' rest') :
    tree = tree' ∧ rest = rest' := by
  obtain ⟨_, rfl⟩ := reads
  obtain ⟨_, same⟩ := reads'
  cases same
  exact ⟨rfl, rfl⟩

/-- The tokens do not go on with an operator that binds tighter than the floor. -/
def Stops (floor : Nat) : List Token → Prop
  | .operator op :: _ => ∀ b, binding? op = some b → b.left ≤ floor
  | _ => True

theorem Stops.mono {higher : Nat} (stops : Stops floor ts) (below : floor ≤ higher) :
    Stops higher ts := by
  match ts, stops with
  | .operator _ :: _, stops => exact fun b bound => Nat.le_trans (stops b bound) below
  | [], _ | .number _ :: _, _ | .variable _ _ _ :: _, _ | .text _ :: _, _ => trivial

theorem stops_closeParen : Stops floor (.operator .closeParen :: ts) := by
  intro b bound
  cases bound

/-- Tokens at which reading does not stop go on with an operator that binds tighter. -/
theorem stops_or_joins (floor : Nat) (ts : List Token) :
    Stops floor ts ∨ ∃ op b rest, ts = .operator op :: rest ∧ binding? op = some b ∧
      floor < b.left := by
  match ts with
  | .operator op :: rest =>
    cases joins : binding? op with
    | none => exact .inl fun b joins' => by cases joins.symm.trans joins'
    | some b =>
      rcases Nat.lt_or_ge floor b.left with tighter | stops
      · exact .inr ⟨op, b, rest, rfl, joins, tighter⟩
      · exact .inl fun b' joins' => by
          cases joins.symm.trans joins'
          exact stops
  | [] | .number _ :: _ | .variable _ _ _ :: _ | .text _ :: _ => exact .inl trivial

/-- Only powers bind tighter than products. -/
theorem Stops.of_lt_power (stops : Stops floor ts) (below : floor < 30) : Stops 20 ts := by
  match ts, stops with
  | .operator op :: _, stops =>
    intro b bound
    have := stops b bound
    cases op <;> simp only [binding?, reduceCtorEq, Option.some.injEq] at bound <;>
      subst bound <;> simp_all
    omega
  | [], _ | .number _ :: _, _ | .variable _ _ _ :: _, _ | .text _ :: _, _ => trivial

/-! ## Climbing -/

/-- Climbing goes no further than to an operator that does not bind tighter than the floor. -/
theorem reads_climb_of_stops (stops : Stops floor ts) :
    Reads (climb inner floor left ts) tree rest ↔ tree = left ∧ rest = ts := by
  have stays : Reads (climb inner floor left ts) left ts := by
    match ts, stops with
    | .operator op :: _, stops =>
      rw [climb]
      cases bound : binding? op with
      | none => exact ⟨_, rfl⟩
      | some b => simp only [stops b bound, if_true]; exact ⟨_, rfl⟩
    | [], _ | .number _ :: _, _ | .variable _ _ _ :: _, _ | .text _ :: _, _ =>
      rw [climb]
      · exact ⟨_, rfl⟩
      · simp
  constructor
  · exact fun reads => reads.unique stays
  · rintro ⟨rfl, rfl⟩
    exact stays

/-- Climbing takes an operator that binds tighter than the floor, reads its right operand and goes
on. -/
theorem reads_climb_operator {op : Operator} {b : Binding} (bound : binding? op = some b)
    (tighter : floor < b.left) :
    Reads (climb inner floor left (.operator op :: ts)) tree final ↔
      ∃ right behind, Reads (inner b.right ts) right behind ∧
        Reads (climb inner floor (.binary op.symbol left right) behind) tree final := by
  rw [climb]
  simp only [bound, Nat.not_le.mpr tighter, if_false]
  constructor
  · rintro ⟨_, result⟩
    split at result
    · cases result
    · next right behind _ reads =>
      split at result
      · cases result
      · next goes =>
        cases result
        exact ⟨right, behind, ⟨_, reads⟩, _, goes⟩
  · rintro ⟨right, behind, ⟨_, reads⟩, _, goes⟩
    simp only [reads, goes]
    exact ⟨_, rfl⟩

/-! ## Operands and whole expressions -/

/-- What stands in parentheses is an expression that ends at the closing one. -/
theorem reads_operand_group (filled : ts.head? ≠ some (.operator .closeParen)) :
    Reads (operand inner (.operator .openParen :: ts)) tree rest ↔
      Reads (inner 0 ts) tree (.operator .closeParen :: rest) := by
  simp only [operand, filled, if_false]
  constructor
  · rintro ⟨_, result⟩
    split at result
    · cases result
    · next behind _ reads =>
      split at result
      · next closes =>
        cases result
        obtain ⟨behind, rfl⟩ := List.head?_eq_some_iff.mp closes
        exact ⟨_, reads⟩
      · cases result
  · rintro ⟨_, reads⟩
    simp only [reads]
    exact ⟨_, rfl⟩

/-- An operand is a number, a variable, what parentheses enclose, or a sign with its operand. -/
theorem reads_operand :
    Reads (operand inner ts) tree rest ↔
      (∃ value, ts = .number value :: rest ∧ tree = .number value) ∨
      (∃ id name value, ts = .variable id name value :: rest ∧ tree = .variable id name value) ∨
      (∃ body, ts = .operator .openParen :: body ∧ body.head? ≠ some (.operator .closeParen) ∧
        Reads (inner 0 body) tree (.operator .closeParen :: rest)) ∨
      (∃ op body within, (op = .minus ∨ op = .plus) ∧ ts = .operator op :: body ∧
        Reads (inner signFloor body) within rest ∧ tree = .unary op.symbol within) := by
  constructor
  · intro reads
    rcases ts with _ | ⟨⟨id, name, value⟩ | op | value | s, body⟩
    · obtain ⟨_, result⟩ := reads
      cases result
    · obtain ⟨_, result⟩ := reads
      cases result
      exact .inr (.inl ⟨id, name, value, rfl, rfl⟩)
    · by_cases opens : op = .openParen
      · subst opens
        by_cases filled : body.head? = some (.operator .closeParen)
        · obtain ⟨_, result⟩ := reads
          simp [operand, filled] at result
        · exact .inr (.inr (.inl ⟨body, rfl, filled, (reads_operand_group filled).mp reads⟩))
      · obtain ⟨_, result⟩ := reads
        rw [operand] at result
        · split at result
          · next isSign =>
            split at result
            · cases result
            · next within _ _ reads =>
              cases result
              exact .inr (.inr (.inr ⟨op, body, within, isSign, rfl, ⟨_, reads⟩, rfl⟩))
          · cases result
        · exact opens
    · obtain ⟨_, result⟩ := reads
      cases result
      exact .inl ⟨value, rfl, rfl⟩
    · obtain ⟨_, result⟩ := reads
      cases result
  · rintro (⟨value, rfl, rfl⟩ | ⟨id, name, value, rfl, rfl⟩ | ⟨body, rfl, filled, reads⟩ |
      ⟨op, body, within, isSign, rfl, ⟨_, reads⟩, rfl⟩)
    · exact ⟨_, rfl⟩
    · exact ⟨_, rfl⟩
    · exact (reads_operand_group filled).mpr reads
    · rcases isSign with rfl | rfl <;>
        · simp only [operand, true_or, or_true, if_true, reads]
          exact ⟨_, rfl⟩

/-- An expression is an operand and what climbing makes of it. -/
theorem reads_read {room : Nat} :
    Reads (read (room + 1) floor ts) tree final ↔
      ∃ first behind, Reads (operand (read room) ts) first behind ∧
        Reads (climb (read room) floor first behind) tree final := by
  rw [Expr.read]
  constructor
  · rintro ⟨_, result⟩
    split at result
    · cases result
    · next first behind _ starts =>
      split at result
      · cases result
      · next goes =>
        cases result
        exact ⟨first, behind, ⟨_, starts⟩, _, goes⟩
  · rintro ⟨first, behind, ⟨_, starts⟩, _, goes⟩
    simp only [starts, goes]
    exact ⟨_, rfl⟩

/-- Nothing is read without room. -/
theorem not_reads_read_zero : ¬ Reads (read 0 floor ts) tree rest := by
  rintro ⟨_, reads⟩
  simp [Expr.read] at reads

/-- A row of tokens is an expression if all of it is read as one. -/
theorem ofTokens_eq_ok_iff_reads :
    ofTokens ts = .ok tree ↔ Reads (read nestingLimit 0 ts) tree [] := by
  cases ts with
  | nil =>
    refine ⟨nofun, ?_⟩
    rintro ⟨shorter, _⟩
    exact absurd shorter (Nat.not_lt_zero _)
  | cons first more =>
    rw [ofTokens]
    constructor
    · intro result
      split at result
      · cases result
      · next reads =>
        cases result
        exact ⟨_, reads⟩
      · cases result
    · rintro ⟨_, reads⟩
      rw [reads]

end FormulaEditor.Grammar
