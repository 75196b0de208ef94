import Mathlib.Data.List.Basic
import FormulaEditor.Proofs.Formula.Labels
import FormulaEditor.Proofs.Grammar.Nesting

/-! # Faults are found at the first token that cannot stand

A row that is refused, other than for its nesting, is refused as early as can be.  The tokens in
front of the fault can still be completed to a row of the grammar, and with one token more they
cannot.

What a reader takes, and where it breaks off, depends on the tokens up to the next one only.  So a
row with the same tokens up to the fault is refused as well, and the grammar derives none of them.
-/

namespace FormulaEditor.Grammar

open FormulaEditor.Expr (Reader Reading Binding binding? signFloor operand climb read ofTokens)

variable {floor room : Nat} {ts rest behind : List Token} {tree left first : Expr} {e : ParseError}

/-! ## What is taken in front of other tokens -/

/-- Where reading stops is told by the next token. -/
theorem stops_cons_iff {t : Token} {more more' : List Token} :
    Stops floor (t :: more) ↔ Stops floor (t :: more') := by
  cases t <;> rfl

/-- A reader takes the same tokens in front of others, provided that these do not continue what it
reads. -/
theorem read_in_front (below : floor < 30) (reads : Reads (read room floor ts) tree rest) :
    Stops floor rest ∧ ∃ taken, ts = taken ++ rest ∧ ∀ {more : Nat} {other : List Token},
      room ≤ more → Stops floor other → Reads (read more floor (taken ++ other)) tree other := by
  have sound := sound_read room
  refine ⟨sound.stops below reads, ?_⟩
  -- The floor tells the category that is read, and a derivation in it can be read anywhere.
  rcases Nat.lt_or_ge floor 10 with low | high
  · obtain ⟨d, rfl, rfl, fits⟩ := sound.expression low reads
    exact ⟨d.tokens, rfl, fun roomy stops =>
      ReadsOn.reads (isRead d) (by omega) low (stops.mono (by omega)) stops⟩
  · rcases Nat.lt_or_ge floor 20 with low | high'
    · obtain ⟨d, rfl, rfl, fits⟩ := sound.term high low reads
      exact ⟨d.tokens, rfl, fun roomy stops =>
        ReadsOn.reads (isRead d) (by omega) low (stops.mono (by omega)) stops⟩
    · obtain ⟨d, rfl, rfl, fits⟩ := sound.signed high' below reads
      exact ⟨d.tokens, rfl, fun roomy stops =>
        ReadsOn.reads (isRead d) (by omega) below (stops.of_lt_power below) stops⟩

/-- Nothing that is read begins with a closing parenthesis. -/
theorem head?_ne_closeParen (reads : Reads (read room floor ts) tree rest) :
    ts.head? ≠ some (.operator .closeParen) := by
  cases room with
  | zero => exact absurd reads not_reads_read_zero
  | succ room =>
    obtain ⟨first, behind, starts, -⟩ := reads_read.mp reads
    rcases reads_operand.mp starts with ⟨_, rfl, _⟩ | ⟨_, _, _, rfl, _⟩ | ⟨_, rfl, _⟩ |
      ⟨op, _, _, rfl | rfl, rfl, _⟩ <;> simp

/-- So does a reader of operands; what stands behind an atom is of no concern to it. -/
theorem operand_in_front (reads : Reads (operand (read room) ts) tree rest) :
    ∃ taken, ts = taken ++ rest ∧ ∀ {more : Nat} {other : List Token},
      room ≤ more → (Stops 20 rest → Stops 20 other) →
        Reads (operand (read more) (taken ++ other)) tree other := by
  rcases reads_operand.mp reads with ⟨value, rfl, rfl⟩ | ⟨id, name, value, rfl, rfl⟩ |
    ⟨body, rfl, filled, inside⟩ | ⟨op, body, within, isSign, rfl, inside, rfl⟩
  · exact ⟨[.number value], rfl, fun _ _ => reads_operand.mpr (.inl ⟨value, rfl, rfl⟩)⟩
  · exact ⟨[.variable id name value], rfl, fun _ _ =>
      reads_operand.mpr (.inr (.inl ⟨id, name, value, rfl, rfl⟩))⟩
  · obtain ⟨-, taken, rfl, again⟩ := read_in_front (by decide) inside
    refine ⟨.operator .openParen :: taken ++ [.operator .closeParen], by simp, ?_⟩
    intro more other roomy _
    have inside : Reads (read more 0 (taken ++ .operator .closeParen :: other)) tree
        (.operator .closeParen :: other) := again roomy stops_closeParen
    rw [List.append_assoc]
    exact (reads_operand_group (head?_ne_closeParen inside)).mpr inside
  · obtain ⟨stops, taken, rfl, again⟩ := read_in_front (by decide) inside
    refine ⟨.operator op :: taken, rfl, fun roomy ends => ?_⟩
    have stops : Stops signFloor _ := (ends (stops.of_lt_power (by decide))).mono (by decide)
    have inside := again roomy stops
    exact reads_operand.mpr (.inr (.inr (.inr ⟨op, _, within, isSign, rfl, inside, rfl⟩)))

/-! ## Where reading breaks off -/

/-- The tokens are refused, and not for their nesting. -/
def Refused {bound : Nat} (result : Except ParseError (Reading bound)) : Prop :=
  ∃ e, result = .error e ∧ e.fault ≠ .tooDeep

section

variable {bound bound' : List Token → Nat}

/-- The tokens are read, whatever follows that binds no tighter than `stop`. -/
def Accepts (reader : (ts : List Token) → Except ParseError (Reading (bound ts))) (stop : Nat)
    (ts : List Token) : Prop :=
  ∀ rest, Stops stop rest → ∃ tree, Reads (reader (ts ++ rest)) tree rest

/-- A reader breaks off behind the tokens `taken`.  These can be completed, there being some more
room, and whatever follows the token behind them is refused. -/
structure BreaksOff (reader roomy : (ts : List Token) → Except ParseError (Reading (bound ts)))
    (stop : Nat) (taken : List Token) (e : ParseError) : Prop where
  completable : ∃ more, (∀ t ∈ more, t.WellFormed) ∧ Accepts roomy stop (taken ++ more)
  blocked : ∀ next behind, e.rest = next :: behind →
    ∀ other, Refused (reader (taken ++ next :: other))
  incomplete : e.fault.isBehind = false

/-- What breaks off a part breaks off the whole. -/
theorem BreaksOff.whole {stop stop' : Nat} {taken : List Token}
    {part partRoomy : (ts : List Token) → Except ParseError (Reading (bound ts))}
    {reader roomy : (ts : List Token) → Except ParseError (Reading (bound' ts))}
    (broken : BreaksOff part partRoomy stop taken e) (front back : List Token)
    (wellFormed : ∀ t ∈ back, t.WellFormed)
    (refuse : ∀ ts, Refused (part (taken ++ ts)) → Refused (reader (front ++ (taken ++ ts))))
    (accept : ∀ ts, Accepts partRoomy stop (taken ++ ts) →
      Accepts roomy stop' (front ++ (taken ++ (ts ++ back)))) :
    BreaksOff reader roomy stop' (front ++ taken) e where
  completable := by
    obtain ⟨more, proper, accepted⟩ := broken.completable
    refine ⟨more ++ back, List.forall_mem_append.mpr ⟨proper, wellFormed⟩, ?_⟩
    rw [List.append_assoc]
    exact accept more accepted
  blocked := by
    intro next behind left other
    rw [List.append_assoc]
    exact refuse _ (broken.blocked next behind left other)
  incomplete := broken.incomplete

end

theorem breaksOff_missing (fault : ParseFault)
    (incomplete : fault.isBehind = false)
    (blocked : ∀ next behind, ts = next :: behind →
      ∀ other, Refused (operand (read room) (next :: other))) :
    BreaksOff (operand (read room)) (operand (read (room + 1))) 20 [] ⟨fault, ts⟩ where
  completable := by
    -- A number can be put in the place of the operand.
    refine ⟨[.number (.int 0)], by decide, fun rest _ => ?_⟩
    exact ⟨.number (.int 0), reads_operand.mpr (.inl ⟨_, rfl, rfl⟩)⟩
  blocked := blocked
  incomplete := incomplete

/-- Every reader with so much room breaks off where it fails. -/
def BreaksOffWhereFailing (room : Nat) : Prop :=
  ∀ {floor : Nat} {ts : List Token} {e : ParseError}, floor < 30 → read room floor ts = .error e →
    e.fault ≠ .tooDeep → ∃ taken, ts = taken ++ e.rest ∧
      BreaksOff (read room floor) (read (room + 1) floor) floor taken e

/-! ### Operands -/

theorem refused_group {inner : Reader} (refused : Refused (inner 0 ts)) :
    Refused (operand inner (.operator .openParen :: ts)) := by
  obtain ⟨e, failed, shallow⟩ := refused
  by_cases empty : ts.head? = some (.operator .closeParen)
  · exact ⟨⟨.emptyParens, ts⟩, by simp [operand, empty], by simp⟩
  · exact ⟨e, by simp [operand, empty, failed], shallow⟩

theorem refused_unclosed {inner : Reader} (reads : Reads (inner 0 ts) tree rest)
    (unclosed : rest.head? ≠ some (.operator .closeParen)) :
    Refused (operand inner (.operator .openParen :: ts)) := by
  obtain ⟨shorter, inside⟩ := reads
  by_cases empty : ts.head? = some (.operator .closeParen)
  · exact ⟨⟨.emptyParens, ts⟩, by simp [operand, empty], by simp⟩
  · exact ⟨⟨.unclosedParen, rest⟩, by simp [operand, empty, inside, unclosed], by simp⟩

theorem refused_sign {inner : Reader} {op : Operator} (isSign : op = .minus ∨ op = .plus)
    (refused : Refused (inner signFloor ts)) : Refused (operand inner (.operator op :: ts)) := by
  obtain ⟨e, failed, shallow⟩ := refused
  rcases isSign with rfl | rfl <;> exact ⟨e, by simp [operand, failed], shallow⟩

theorem accepts_group (accepted : Accepts (read room 0) 0 ts) :
    Accepts (operand (read room)) 20 (.operator .openParen :: (ts ++ [.operator .closeParen])) := by
  intro rest _
  obtain ⟨tree, inside⟩ := accepted (.operator .closeParen :: rest) stops_closeParen
  have filled := head?_ne_closeParen inside
  refine ⟨tree, ?_⟩
  rw [List.cons_append, List.append_assoc]
  exact (reads_operand_group filled).mpr inside

theorem accepts_sign {op : Operator} (isSign : op = .minus ∨ op = .plus)
    (accepted : Accepts (read room signFloor) signFloor ts) :
    Accepts (operand (read room)) 20 (.operator op :: ts) := by
  intro rest stops
  obtain ⟨tree, inside⟩ := accepted rest (stops.mono (by decide))
  exact ⟨_, reads_operand.mpr (.inr (.inr (.inr ⟨op, _, tree, isSign, rfl, inside, rfl⟩)))⟩

theorem breaksOff_group (breaks : BreaksOffWhereFailing room)
    (failed : operand (read room) (.operator .openParen :: ts) = .error e)
    (shallow : e.fault ≠ .tooDeep) :
    ∃ taken, .operator .openParen :: ts = taken ++ e.rest ∧
      BreaksOff (operand (read room)) (operand (read (room + 1))) 20 taken e := by
  simp only [operand] at failed
  split at failed
  · next empty =>
    obtain ⟨rest, rfl⟩ := List.head?_eq_some_iff.mp empty
    cases failed
    have number : Accepts (read (room + 1) 0) 0 [.number (.int 0)] := by
      intro rest stops
      exact ⟨_, reads_read.mpr ⟨.number (.int 0), rest, reads_operand.mpr (.inl ⟨_, rfl, rfl⟩),
        (reads_climb_of_stops stops).mpr ⟨rfl, rfl⟩⟩⟩
    refine ⟨[.operator .openParen], rfl, ⟨⟨[.number (.int 0), .operator .closeParen], by decide,
      accepts_group number⟩, ?_, rfl⟩⟩
    rintro _ _ ⟨⟩ other
    exact ⟨⟨.emptyParens, .operator .closeParen :: other⟩, by simp [operand], by simp⟩
  split at failed
  · next inside =>
    cases failed
    obtain ⟨taken, rfl, broken⟩ := breaks (by decide) inside shallow
    refine ⟨.operator .openParen :: taken, rfl,
      broken.whole [.operator .openParen] [.operator .closeParen] (by decide)
        (fun _ => refused_group) fun more accepted => ?_⟩
    rw [← List.append_assoc taken]
    exact accepts_group accepted
  · next tree behind shorter inside =>
    split at failed
    · cases failed
    next unclosed =>
    cases failed
    obtain ⟨stops, taken, rfl, again⟩ := read_in_front (by decide) ⟨shorter, inside⟩
    refine ⟨.operator .openParen :: taken, rfl, ⟨⟨[.operator .closeParen], by decide,
      accepts_group fun rest ends => ⟨tree, again (Nat.le_succ room) ends⟩⟩, ?_, rfl⟩⟩
    rintro next behind rfl other
    refine refused_unclosed (again (Nat.le_refl room) (stops_cons_iff.mp stops)) ?_
    simpa using unclosed

theorem breaksOff_operand (breaks : BreaksOffWhereFailing room)
    (failed : operand (read room) ts = .error e) (shallow : e.fault ≠ .tooDeep) :
    ∃ taken, ts = taken ++ e.rest ∧
      BreaksOff (operand (read room)) (operand (read (room + 1))) 20 taken e := by
  match ts with
  | [] =>
    cases failed
    exact ⟨[], rfl, breaksOff_missing _ rfl (by simp)⟩
  | .number _ :: _ | .variable _ _ _ :: _ => cases failed
  | .text s :: rest =>
    cases failed
    refine ⟨[], rfl, breaksOff_missing _ rfl ?_⟩
    rintro _ _ ⟨⟩ other
    exact ⟨_, rfl, by simp⟩
  | .operator op :: rest =>
    by_cases opens : op = .openParen
    · subst opens
      exact breaksOff_group breaks failed shallow
    rw [operand] at failed
    · split at failed
      · next isSign =>
        split at failed
        · next inside =>
          cases failed
          obtain ⟨taken, rfl, broken⟩ := breaks (by decide) inside shallow
          refine ⟨.operator op :: taken, rfl, broken.whole [.operator op] [] (by simp)
            (fun _ => refused_sign isSign) fun more accepted => ?_⟩
          rw [List.append_nil]
          exact accepts_sign isSign accepted
        · cases failed
      · next noSign =>
        cases failed
        refine ⟨[], rfl, breaksOff_missing _ rfl ?_⟩
        rintro _ _ ⟨⟩ other
        refine ⟨⟨.operatorOperand op.symbol, .operator op :: other⟩, ?_, by simp⟩
        rw [operand, if_neg noSign]
        exact opens
    · exact opens

/-! ### Operators and whole expressions -/

theorem refused_right {inner : Reader} {op : Operator} {b : Binding} (joins : binding? op = some b)
    (tighter : floor < b.left) (refused : Refused (inner b.right ts)) :
    Refused (climb inner floor left (.operator op :: ts)) := by
  obtain ⟨e, failed, shallow⟩ := refused
  refine ⟨e, ?_, shallow⟩
  rw [climb]
  simp [joins, Nat.not_le.mpr tighter, failed]

theorem refused_climb {inner : Reader} {op : Operator} {b : Binding} (joins : binding? op = some b)
    (tighter : floor < b.left) {right : Expr} (reads : Reads (inner b.right ts) right rest)
    (refused : Refused (climb inner floor (.binary op.symbol left right) rest)) :
    Refused (climb inner floor left (.operator op :: ts)) := by
  obtain ⟨shorter, inside⟩ := reads
  obtain ⟨e, failed, shallow⟩ := refused
  refine ⟨e, ?_, shallow⟩
  rw [climb]
  simp [joins, Nat.not_le.mpr tighter, inside, failed]

/-- The floor on the right of an operator that is taken is no lower than the floor outside. -/
theorem le_right {op : Operator} {b : Binding} (joins : binding? op = some b)
    (tighter : floor < b.left) : floor ≤ b.right ∧ b.right < 30 := by
  cases op <;> cases joins <;> simp_all <;> omega

theorem breaksOff_climb (breaks : BreaksOffWhereFailing room) (below : floor < 30)
    (left : Expr) (ts : List Token) (failed : climb (read room) floor left ts = .error e)
    (shallow : e.fault ≠ .tooDeep) :
    ∃ op taken, ts = .operator op :: taken ++ e.rest ∧
      BreaksOff (climb (read room) floor left) (climb (read (room + 1)) floor left) floor
        (.operator op :: taken) e := by
  rw [climb.eq_def] at failed
  split at failed
  · next op body =>
    split at failed
    · cases failed
    next b joins =>
    split at failed
    · cases failed
    next tighter =>
    have tighter := Nat.not_le.mp tighter
    -- Either the right operand fails, or it is read and what goes on behind it fails.
    obtain ⟨le, low⟩ := le_right joins tighter
    split at failed
    · next inside =>
      cases failed
      obtain ⟨taken, rfl, broken⟩ := breaks low inside shallow
      refine ⟨op, taken, rfl, broken.whole [.operator op] [] (by simp)
        (fun _ => refused_right joins tighter) fun more accepted rest stops => ?_⟩
      obtain ⟨right, reads⟩ := accepted rest (stops.mono le)
      rw [List.append_nil]
      exact ⟨_, (reads_climb_operator joins tighter).mpr ⟨right, rest, reads,
        (reads_climb_of_stops stops).mpr ⟨rfl, rfl⟩⟩⟩
    · next right behind shorter inside =>
      split at failed
      · next goes =>
        cases failed
        obtain ⟨stops, first, rfl, again⟩ := read_in_front low ⟨shorter, inside⟩
        obtain ⟨op', taken, rfl, broken⟩ :=
          breaksOff_climb breaks below (.binary op.symbol left right) behind goes shallow
        refine ⟨op, first ++ .operator op' :: taken, by simp,
          broken.whole (.operator op :: first) [] (by simp) (fun more refused => ?_)
            fun more accepted rest ends => ?_⟩
        · refine refused_climb joins tighter (again (Nat.le_refl room) ?_) refused
          exact stops_cons_iff.mp stops
        · obtain ⟨whole, reads⟩ := accepted rest ends
          rw [List.append_nil, List.append_assoc]
          refine ⟨whole, (reads_climb_operator joins tighter).mpr ⟨right, _, ?_, reads⟩⟩
          exact again (Nat.le_succ room) (stops_cons_iff.mp stops)
      · cases failed
  · cases failed
termination_by ts.length
decreasing_by subst_vars; simp only [List.length_cons]; omega

theorem refused_operand (refused : Refused (operand (read room) ts)) :
    Refused (read (room + 1) floor ts) := by
  obtain ⟨e, failed, shallow⟩ := refused
  refine ⟨e, ?_, shallow⟩
  rw [Expr.read]
  simp [failed]

theorem refused_behind_operand (reads : Reads (operand (read room) ts) first rest)
    (refused : Refused (climb (read room) floor first rest)) :
    Refused (read (room + 1) floor ts) := by
  obtain ⟨shorter, starts⟩ := reads
  obtain ⟨e, failed, shallow⟩ := refused
  refine ⟨e, ?_, shallow⟩
  rw [Expr.read]
  simp [starts, failed]

theorem breaksOff_read (room : Nat) : BreaksOffWhereFailing room := by
  induction room with
  | zero =>
    intro floor ts e _ failed shallow
    cases failed
    exact absurd rfl shallow
  | succ room breaks =>
    intro floor ts e below failed shallow
    -- Either the first operand fails, or what goes on behind it.
    rw [Expr.read] at failed
    split at failed
    · next starts =>
      cases failed
      obtain ⟨taken, rfl, broken⟩ := breaksOff_operand breaks starts shallow
      refine ⟨taken, rfl, broken.whole [] [] (by simp) (fun _ => refused_operand)
        fun more accepted rest stops => ?_⟩
      obtain ⟨tree, reads⟩ := accepted rest (stops.of_lt_power below)
      rw [List.append_nil]
      exact ⟨tree, reads_read.mpr ⟨tree, rest, reads, (reads_climb_of_stops stops).mpr ⟨rfl, rfl⟩⟩⟩
    · next first behind shorter starts =>
      split at failed
      · next goes =>
        cases failed
        obtain ⟨start, rfl, again⟩ := operand_in_front ⟨shorter, starts⟩
        obtain ⟨op, taken, rfl, broken⟩ := breaksOff_climb breaks below first behind goes shallow
        refine ⟨start ++ .operator op :: taken, by simp,
          broken.whole start [] (by simp) (fun more refused => ?_)
            fun more accepted rest ends => ?_⟩
        · exact refused_behind_operand (again (Nat.le_refl room) stops_cons_iff.mp) refused
        · obtain ⟨tree, reads⟩ := accepted rest ends
          rw [List.append_nil, List.append_assoc]
          exact ⟨tree, reads_read.mpr ⟨first, _, again (Nat.le_succ room) stops_cons_iff.mp, reads⟩⟩
      · cases failed

/-! ## Rows of tokens -/

theorem ofTokens_of_refused (refused : Refused (read nestingLimit 0 ts)) :
    ∃ e, ofTokens ts = .error e ∧ e.fault ≠ .tooDeep := by
  cases ts with
  | nil => exact ⟨⟨.empty, []⟩, rfl, by simp⟩
  | cons t more =>
    obtain ⟨e, failed, shallow⟩ := refused
    exact ⟨e, by rw [ofTokens, failed], shallow⟩

/-- Tokens that are read as an expression are read in front of others too.  The first of these is the
fault then, unless it continues the expression. -/
theorem ofTokens_of_complete {taken : List Token} {next : Token} (behind : List Token)
    (complete : ofTokens taken = .ok tree) (ends : Stops 0 [next]) :
    ofTokens (taken ++ next :: behind) =
      .error ⟨.behind taken.length next, next :: behind⟩ := by
  obtain ⟨-, _, row, again⟩ := read_in_front (by decide) (ofTokens_eq_ok_iff_reads.mp complete)
  rw [List.append_nil] at row
  rw [← row] at again
  obtain ⟨shorter, reads⟩ : Reads (read nestingLimit 0 (taken ++ next :: behind)) tree
      (next :: behind) := again (Nat.le_refl _) (stops_cons_iff.mp ends)
  cases taken with
  | nil => simp at shorter
  | cons t taken =>
    have position : (taken ++ next :: behind).length - behind.length = taken.length + 1 := by
      rw [List.length_append, List.length_cons]
      omega
    have reads : read nestingLimit 0 (t :: (taken ++ next :: behind)) =
      .ok ⟨tree, next :: behind, shorter⟩ := reads
    rw [List.cons_append, ofTokens, reads]
    simp only [position, List.length_cons]

/-- Where the fault is a token behind a complete expression, the tokens in front of it are read, and
it does not continue them. -/
theorem exists_complete_of_isBehind (refused : ofTokens ts = .error e)
    (told : e.fault.isBehind = true) :
    ∃ taken next behind tree, ts = taken ++ next :: behind ∧ ofTokens taken = .ok tree ∧
      Stops 0 [next] ∧ e = ⟨.behind taken.length next, next :: behind⟩ := by
  cases ts with
  | nil =>
    cases refused
    cases told
  | cons t more =>
    rw [ofTokens] at refused
    split at refused
    · next failed =>
      cases refused
      have shallow : e.fault ≠ .tooDeep := by
        intro deep
        rw [deep] at told
        cases told
      obtain ⟨_, -, broken⟩ := breaksOff_read nestingLimit (by decide) failed shallow
      exact absurd told (by rw [broken.incomplete]; exact Bool.false_ne_true)
    · cases refused
    · next tree next behind shorter reads =>
      obtain ⟨stops, taken, row, again⟩ := read_in_front (by decide) ⟨shorter, reads⟩
      have accepted : Reads (read nestingLimit 0 (taken ++ [])) tree [] :=
        again (Nat.le_refl _) trivial
      rw [List.append_nil] at accepted
      have position : more.length - behind.length = taken.length := by
        have length := congrArg List.length row
        simp only [List.length_cons, List.length_append] at length
        omega
      cases refused
      exact ⟨taken, next, behind, tree, row, ofTokens_eq_ok_iff_reads.mpr accepted,
        stops_cons_iff.mp stops, by rw [position]⟩

/-- A row of the grammar is refused for its nesting only. -/
theorem tooDeep_of_tokens (d : Derivation .expression) (refused : ofTokens d.tokens = .error e) :
    e.fault = .tooDeep := by
  rcases ofTokens_tokens d with ⟨read, -⟩ | ⟨⟨rest, deep⟩, -⟩
  · rw [read] at refused
    cases refused
  · rw [deep] at refused
    cases refused
    rfl

/-- Where reading breaks off inside an expression, the tokens in front of the fault begin a row of the
grammar, which well-formed tokens complete, and with one token more they begin none. -/
theorem exists_begun_of_not_isBehind (refused : ofTokens ts = .error e)
    (shallow : e.fault ≠ .tooDeep) (inside : e.fault.isBehind = false) :
    ∃ taken, ts = taken ++ e.rest ∧
      (∃ (d : Derivation .expression) (more : List Token), d.tokens = taken ++ more ∧
        ∀ t ∈ more, t.WellFormed) ∧
      ∀ next behind, e.rest = next :: behind →
        ¬ ∃ (d : Derivation .expression) (more : List Token), d.tokens = taken ++ next :: more := by
  cases ts with
  | nil =>
    cases refused
    exact ⟨[], rfl, ⟨.expression (.term (.unsigned (.single (.number (.int 0)))) .noFactor) .noTerm,
      [.number (.int 0)], rfl, by decide⟩, by simp⟩
  | cons t more =>
    rw [ofTokens] at refused
    split at refused
    · next failed =>
      cases refused
      obtain ⟨taken, row, broken⟩ := breaksOff_read nestingLimit (by decide) failed shallow
      obtain ⟨added, proper, accepted⟩ := broken.completable
      obtain ⟨tree, reads⟩ := accepted [] trivial
      obtain ⟨d, tokens, -, -⟩ := (sound_read _).expression (by decide) reads
      rw [List.append_nil, List.append_nil] at tokens
      refine ⟨taken, row, ⟨d, added, tokens.symm, proper⟩, ?_⟩
      rintro next behind left ⟨d', more', tokens'⟩
      -- A row that is derived would be refused for its nesting only.
      obtain ⟨e', refused', shallow'⟩ := ofTokens_of_refused (broken.blocked next behind left more')
      rw [← tokens'] at refused'
      exact shallow' (tooDeep_of_tokens d' refused')
    · cases refused
    · cases refused
      rw [ParseFault.isBehind_behind] at inside
      cases inside

/-- A token that does not continue the expression in front of it continues no row of the grammar. -/
theorem not_begun_of_complete {taken : List Token} {next : Token}
    (complete : ofTokens taken = .ok tree) (ends : Stops 0 [next]) :
    ¬ ∃ (d : Derivation .expression) (more : List Token), d.tokens = taken ++ next :: more := by
  rintro ⟨d, more, tokens⟩
  have refused := ofTokens_of_complete more complete ends
  rw [← tokens] at refused
  have deep : ParseFault.behind taken.length next = .tooDeep := tooDeep_of_tokens d refused
  have told := ParseFault.isBehind_behind taken.length next
  rw [deep] at told
  cases told

/-- A row that is refused, and not for its nesting, is refused at the first token that cannot stand.
The tokens in front of it begin a row of the grammar, which well-formed tokens complete, and with it
they begin none.  Where a token behind a complete expression is told, the tokens in front of it are
read, and the position that is told is theirs; they are read too where it has no label to tell. -/
theorem ofTokens_refuses_first_impossible (refused : ofTokens ts = .error e)
    (shallow : e.fault ≠ .tooDeep) :
    ∃ taken, ts = taken ++ e.rest ∧
      (∃ (d : Derivation .expression) (more : List Token), d.tokens = taken ++ more ∧
        ∀ t ∈ more, t.WellFormed) ∧
      (∀ next behind, e.rest = next :: behind →
        ¬ ∃ (d : Derivation .expression) (more : List Token), d.tokens = taken ++ next :: more) ∧
      (∀ position label, e.fault = .unexpected position label →
        position = taken.length ∧ e.rest.head?.map Token.label = some label ∧
          ∃ tree, ofTokens taken = .ok tree) ∧
      (e.fault = .unwritable → ∃ tree, ofTokens taken = .ok tree) := by
  cases told : e.fault.isBehind with
  | false =>
    obtain ⟨taken, row, begun, impossible⟩ := exists_begun_of_not_isBehind refused shallow told
    refine ⟨taken, row, begun, impossible, fun position label named => ?_, fun unnamed => ?_⟩
    · rw [named] at told
      cases told
    · rw [unnamed] at told
      cases told
  | true =>
    obtain ⟨taken, next, behind, tree, rfl, complete, ends, rfl⟩ :=
      exists_complete_of_isBehind refused told
    obtain ⟨d, tokens, -, -⟩ := ofTokens_eq_ok_iff.mp complete
    refine ⟨taken, rfl, ⟨d, [], by rw [tokens, List.append_nil], by simp⟩, ?_, ?_,
      fun _ => ⟨tree, complete⟩⟩
    · rintro _ _ ⟨⟩
      exact not_begun_of_complete complete ends
    · intro position label named
      rcases ParseFault.behind_cases taken.length next with ⟨-, same⟩ | ⟨-, same⟩
      · rw [same] at named
        cases named
        exact ⟨rfl, rfl, tree, complete⟩
      · rw [same] at named
        cases named

/-- In `( 1 + ) 3` the closing parenthesis cannot stand, whatever follows, while `( 1 +` can still
be completed. -/
theorem ofTokens_refuses_closing :
    ofTokens [.operator .openParen, .number (.int 1), .operator .plus, .operator .closeParen,
      .number (.int 3)] =
      .error ⟨.operatorOperand ")", [.operator .closeParen, .number (.int 3)]⟩ ∧
    (∃ (d : Derivation .expression) (more : List Token),
      d.tokens = [.operator .openParen, .number (.int 1), .operator .plus] ++ more) ∧
    ¬ ∃ (d : Derivation .expression) (more : List Token),
      d.tokens = [.operator .openParen, .number (.int 1), .operator .plus] ++
        .operator .closeParen :: more := by
  have refused : ofTokens [.operator .openParen, .number (.int 1), .operator .plus,
      .operator .closeParen, .number (.int 3)] =
      .error ⟨.operatorOperand ")", [.operator .closeParen, .number (.int 3)]⟩ := by
    cbv
  obtain ⟨taken, row, ⟨d, more, tokens, -⟩, impossible, -⟩ :=
    ofTokens_refuses_first_impossible refused (by simp)
  have taken_eq : taken = [.operator .openParen, .number (.int 1), .operator .plus] :=
    (List.append_cancel_right row).symm
  subst taken_eq
  exact ⟨refused, ⟨d, more, tokens⟩, impossible _ _ rfl⟩

end FormulaEditor.Grammar
