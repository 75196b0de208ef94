import FormulaEditor.Proofs.Grammar.Acceptance

/-! # Room for nested expressions

A reader reads what is inside an expression further right only.  So more room changes nothing for
tokens that fit, and where there is room for more expressions than there are tokens, the room is of
no concern at all.

It follows that a row that the grammar derives is either read, or it is refused for its nesting and
for nothing else.
-/

namespace FormulaEditor.Grammar

open FormulaEditor.Expr (Reader Reading operand climb read ofTokens)

variable {kind : ParseFault → Prop} {roomy narrow : Reader} {floor : Nat} {ts : List Token}

/-- Reading fails with a fault of this kind. -/
def FailsWith (kind : ParseFault → Prop) {bound : Nat}
    (result : Except ParseError (Reading bound)) : Prop :=
  ∃ e, kind e.fault ∧ result = .error e

/-- What is shorter than a row is read alike, unless the second reader fails with such a fault. -/
def AgreesBehind (kind : ParseFault → Prop) (ts : List Token) (roomy narrow : Reader) : Prop :=
  ∀ floor rest, rest.length < ts.length →
    FailsWith kind (narrow floor rest) ∨ roomy floor rest = narrow floor rest

theorem AgreesBehind.of_length_le {rest : List Token} (agrees : AgreesBehind kind ts roomy narrow)
    (le : rest.length ≤ ts.length) : AgreesBehind kind rest roomy narrow :=
  fun floor other shorter => agrees floor other (Nat.lt_of_lt_of_le shorter le)

theorem operand_agree (agrees : AgreesBehind kind ts roomy narrow) :
    FailsWith kind (operand narrow ts) ∨ operand roomy ts = operand narrow ts := by
  match ts with
  | [] | .number _ :: _ | .variable _ _ _ :: _ | .text _ :: _ => exact .inr rfl
  | .operator op :: rest =>
    by_cases opens : op = .openParen
    · subst opens
      simp only [operand]
      split
      · exact .inr rfl
      · rcases agrees 0 rest (Nat.lt_succ_self _) with ⟨e, isKind, failed⟩ | same
        · rw [failed]
          exact .inl ⟨e, isKind, rfl⟩
        · rw [same]
          exact .inr rfl
    · rw [operand, operand]
      · split
        · rcases agrees Expr.signFloor rest (Nat.lt_succ_self _) with ⟨e, isKind, failed⟩ | same
          · rw [failed]
            exact .inl ⟨e, isKind, rfl⟩
          · rw [same]
            exact .inr rfl
        · exact .inr rfl
      · exact opens
      · exact opens

theorem climb_agree {ts : List Token} (agrees : AgreesBehind kind ts roomy narrow) (left : Expr) :
    FailsWith kind (climb narrow floor left ts) ∨
      climb roomy floor left ts = climb narrow floor left ts := by
  rw [climb.eq_def roomy, climb.eq_def narrow]
  split
  · next op rest =>
    split
    · exact .inr rfl
    next binding _ =>
    split
    · exact .inr rfl
    rcases agrees binding.right rest (Nat.lt_succ_self _) with ⟨e, isKind, failed⟩ | same
    · rw [failed]
      exact .inl ⟨e, isKind, rfl⟩
    rw [same]
    split
    · exact .inr rfl
    next right behind shorter _ =>
    have agrees : AgreesBehind kind behind roomy narrow :=
      agrees.of_length_le (Nat.le_succ_of_le (Nat.le_of_lt shorter))
    rcases climb_agree agrees (.binary op.symbol left right) with ⟨e, isKind, failed⟩ | same
    · rw [failed]
      exact .inl ⟨e, isKind, rfl⟩
    · rw [same]
      exact .inr rfl
  · exact .inr rfl
termination_by ts.length
decreasing_by subst_vars; simp only [List.length_cons]; omega

theorem read_succ_agree {room more : Nat} (agrees : AgreesBehind kind ts (read more) (read room)) :
    FailsWith kind (read (room + 1) floor ts) ∨
      read (more + 1) floor ts = read (room + 1) floor ts := by
  rw [Expr.read, Expr.read]
  rcases operand_agree agrees with ⟨e, isKind, failed⟩ | same
  · rw [failed]
    exact .inl ⟨e, isKind, rfl⟩
  rw [same]
  split
  · exact .inr rfl
  next first rest shorter _ =>
  rcases climb_agree (agrees.of_length_le (Nat.le_of_lt shorter)) first with
    ⟨e, isKind, failed⟩ | same
  · rw [failed]
    exact .inl ⟨e, isKind, rfl⟩
  · rw [same]
    exact .inr rfl

/-- More room changes nothing unless there was too little. -/
theorem read_agrees {room more : Nat} (le : room ≤ more) (floor : Nat) (ts : List Token) :
    FailsWith (· = .tooDeep) (read room floor ts) ∨ read more floor ts = read room floor ts := by
  induction room generalizing more floor ts with
  | zero => exact .inl ⟨_, rfl, rfl⟩
  | succ room ih =>
    obtain ⟨more, rfl⟩ : ∃ fewer, more = fewer + 1 := Nat.exists_eq_succ_of_ne_zero (by omega)
    exact read_succ_agree fun floor rest _ => ih (by omega) floor rest

/-- Nothing is nested deeper than there are tokens. -/
theorem read_eq_of_length_lt {room more : Nat} (enough : ts.length < room)
    (enough' : ts.length < more) : read more floor ts = read room floor ts := by
  induction room generalizing more floor ts with
  | zero => exact absurd enough (Nat.not_lt_zero _)
  | succ room ih =>
    obtain ⟨more, rfl⟩ : ∃ fewer, more = fewer + 1 := Nat.exists_eq_succ_of_ne_zero (by omega)
    have agrees : AgreesBehind (fun _ => False) ts (read more) (read room) :=
      fun floor rest shorter => .inr (ih (by omega) (by omega))
    exact (read_succ_agree agrees).resolve_left fun ⟨_, impossible, _⟩ => impossible

/-! ## Rows that the grammar derives -/

/-- A row that has a derivation is read as its tree if the nesting is within the limit, and is
refused for its nesting if not. -/
theorem ofTokens_tokens (d : Derivation .expression) :
    ofTokens d.tokens = .ok d.tree ∧ d.nesting < nestingLimit ∨
      (∃ rest, ofTokens d.tokens = .error ⟨.tooDeep, rest⟩) ∧ nestingLimit ≤ d.nesting := by
  rcases Nat.lt_or_ge d.nesting nestingLimit with fits | deep
  · exact .inl ⟨ofTokens_eq_ok_iff.mpr ⟨d, rfl, fits, rfl⟩, fits⟩
  · refine .inr ⟨?_, deep⟩
    -- With enough room the row is read, so with less it is read as well or too deep.
    have reads : Reads (read (d.nesting + 1) 0 (d.tokens ++ [])) d.tree [] :=
      ReadsOn.reads (isRead d) (Nat.lt_succ_self _) (by decide) trivial trivial
    rw [List.append_nil] at reads
    obtain ⟨t, more, tokens, -⟩ := d.exists_begins nofun nofun
    rw [tokens] at reads ⊢
    rcases read_agrees (Nat.le_succ_of_le deep) 0 (t :: more) with ⟨⟨_, rest⟩, rfl, tooDeep⟩ | same
    · refine ⟨rest, ?_⟩
      rw [ofTokens, tooDeep]
    · rw [same] at reads
      have accepted := ofTokens_eq_ok_iff_reads.mpr reads
      obtain ⟨d', tokens', fits, -⟩ := ofTokens_eq_ok_iff.mp accepted
      rw [← tokens] at tokens'
      rw [Derivation.eq_of_tokens tokens'] at fits
      exact absurd fits (Nat.not_lt.mpr deep)

end FormulaEditor.Grammar
