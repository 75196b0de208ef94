import FormulaEditor.Expression.Cursor
import FormulaEditor.Proofs.Grammar.FirstFault

/-! # What an expression takes from a row

A cursor reads as `Expr.read` does.  Its position is told by the tokens that are left, and its depth
by the room that is left, so it is back at its depth behind every expression.

An expression takes a block of the row, which is not empty.  Its tree depends on the block alone, as
long as what follows the block does not go on with an operator that binds tighter than the floor.
Everything inside an expression is read further right, so that reading ends on every row, whatever
the limit on the nesting.
-/

namespace FormulaEditor.Cursor

open FormulaEditor.Expr (Reader Reading signFloor binding?)
open FormulaEditor.Grammar (Reads Stops)

variable {tokens : List Token} {start bound depth floor : Nat} {reader : Reader} {c : Cursor}

/-! ## Cursors and the tokens that are left -/

/-- A cursor comes to the result of a reader: to the same fault in front of the same tokens, or to
the same tree with the same tokens left, and then it is at the given depth. -/
def Follows (depth : Nat) (result : Except ParseError (Found tokens start))
    (reading : Except ParseError (Reading bound)) : Prop :=
  (∃ e, result = .error e ∧ reading = .error e) ∨
    ∃ found, result = .ok found ∧ found.cursor.depth = depth ∧
      Reads reading found.tree (tokens.drop found.cursor.position)

/-- Expressions that start behind a place, at this depth, are read as by the reader. -/
def InnerFollows (depth : Nat) (inner : Inner tokens start) (reader : Reader) : Prop :=
  ∀ floor c further inside, c.depth = depth →
    Follows depth (inner floor c further inside) (reader floor (tokens.drop c.position))

theorem drop_eq_cons {position : Nat} {t : Token} (ahead : tokens[position]? = some t) :
    tokens.drop position = t :: tokens.drop (position + 1) := by
  obtain ⟨inRow, rfl⟩ := List.getElem?_eq_some_iff.mp ahead
  exact List.drop_eq_getElem_cons inRow

theorem follows_operand {inner : Inner tokens c.position}
    (follows : InnerFollows c.depth inner reader) :
    Follows c.depth (operand c inner) (Expr.operand reader (tokens.drop c.position)) := by
  rw [operand]
  split
  · next ends =>
    rw [refuse, List.drop_eq_nil_of_le (List.getElem?_eq_none_iff.mp ends)]
    exact .inl ⟨_, rfl, rfl⟩
  · next ahead =>
    rw [drop_eq_cons ahead]
    exact .inr ⟨_, rfl, rfl, _, rfl⟩
  · next ahead =>
    rw [drop_eq_cons ahead]
    exact .inr ⟨_, rfl, rfl, _, rfl⟩
  · next ahead =>
    rw [refuse, drop_eq_cons ahead]
    exact .inl ⟨_, rfl, rfl⟩
  · next ahead =>
    rw [drop_eq_cons ahead]
    simp only [Expr.operand, List.head?_drop]
    split
    · exact .inl ⟨_, rfl, rfl⟩
    rcases follows 0 c.step (Nat.lt_succ_self _) (lt_length ahead) rfl with
      ⟨e, failed, failed'⟩ | ⟨⟨tree, behind, further, inside⟩, read, same, shorter, read'⟩
    · rw [failed, failed']
      exact .inl ⟨e, rfl, rfl⟩
    · rw [read, read']
      simp only [List.head?_drop, List.tail_drop]
      split
      · exact .inr ⟨_, rfl, same, _, rfl⟩
      · exact .inl ⟨_, rfl, rfl⟩
  · next op notOpen ahead =>
    rw [drop_eq_cons ahead, Expr.operand]
    · split
      · rcases follows signFloor c.step (Nat.lt_succ_self _) (lt_length ahead) rfl with
          ⟨e, failed, failed'⟩ | ⟨⟨tree, behind, further, inside⟩, read, same, shorter, read'⟩
        · rw [failed, failed']
          exact .inl ⟨e, rfl, rfl⟩
        · rw [read, read']
          exact .inr ⟨_, rfl, same, _, rfl⟩
      · rw [refuse, drop_eq_cons ahead]
        exact .inl ⟨_, rfl, rfl⟩
    · exact notOpen

section

variable {inner : Inner tokens start} {left : Found tokens start}

theorem round_of_stops (stops : Stops floor (tokens.drop left.cursor.position)) :
    round inner floor left = .ok none := by
  rw [round]
  split
  · next op ahead =>
    rw [drop_eq_cons ahead] at stops
    split
    · rfl
    · next b joins => rw [if_pos (stops b joins)]
  · rfl

/-- A round takes an operator that binds tighter than the floor with what is read behind it. -/
theorem round_operator {op : Operator} {b : Expr.Binding}
    (ahead : tokens[left.cursor.position]? = some (.operator op)) (joins : binding? op = some b)
    (tighter : floor < b.left) :
    round inner floor left =
      match inner b.right left.cursor.step (Nat.lt_succ_of_lt left.further) (lt_length ahead) with
      | .error e => .error e
      | .ok ⟨right, behind, further, inside⟩ =>
        .ok (some ⟨.binary op.symbol left.tree right, behind, Nat.lt_of_succ_lt further, inside⟩) := by
  rw [round]
  split
  · next op' ahead' =>
    cases ahead.symm.trans ahead'
    simp only [joins]
    exact if_neg (Nat.not_le.mpr tighter)
  · next other =>
    exact absurd ahead (other op)

theorem follows_climb (follows : InnerFollows depth inner reader) (floor : Nat)
    (left : Found tokens start) (same : left.cursor.depth = depth) :
    Follows depth (climb inner floor left)
      (Expr.climb reader floor left.tree (tokens.drop left.cursor.position)) := by
  rw [climb]
  rcases Grammar.stops_or_joins floor (tokens.drop left.cursor.position) with
    stops | ⟨op, b, rest, row, joins, tighter⟩
  · rw [round_of_stops stops]
    exact .inr ⟨left, rfl, same, (Grammar.reads_climb_of_stops stops).mpr ⟨rfl, rfl⟩⟩
  have ahead : tokens[left.cursor.position]? = some (.operator op) := by
    rw [← List.head?_drop, row]
    rfl
  rw [drop_eq_cons ahead, round_operator ahead joins tighter, Expr.climb]
  simp only [joins, if_neg (Nat.not_le.mpr tighter)]
  rcases follows b.right left.cursor.step (Nat.lt_succ_of_lt left.further) (lt_length ahead) same with
    ⟨e, failed, failed'⟩ | ⟨⟨right, behind, further, inside⟩, read, same', shorter, read'⟩
  · rw [failed, failed']
    exact .inl ⟨e, rfl, rfl⟩
  rw [read, read']
  have further : left.cursor.position < behind.position := Nat.lt_of_succ_lt further
  rcases follows_climb follows floor ⟨.binary op.symbol left.tree right, behind,
      Nat.lt_trans left.further further, inside⟩ same' with
    ⟨e, failed, failed'⟩ | ⟨found, climbs, same'', shorter', climbs'⟩
  · simp only [failed, failed']
    exact .inl ⟨e, rfl, rfl⟩
  · simp only [climbs, climbs']
    exact .inr ⟨found, rfl, same'', _, rfl⟩
termination_by tokens.length - left.cursor.position
decreasing_by omega

end

/-! ## Whole expressions -/

/-- A cursor that has gone into so many expressions reads as with the room that is left for more. -/
theorem follows_expression (tokens : List Token) (floor : Nat) (c : Cursor) :
    Follows c.depth (expression tokens floor c)
      (Expr.read (nestingLimit - c.depth) floor (tokens.drop c.position)) := by
  have deeper : c.enter.depth = c.depth + 1 := rfl
  rw [expression, call]
  split
  · next deep =>
    rw [Nat.sub_eq_zero_of_le (by omega)]
    exact .inl ⟨_, rfl, rfl⟩
  next fits =>
  obtain ⟨room, roomy⟩ : ∃ room, nestingLimit - c.depth = room + 1 :=
    Nat.exists_eq_succ_of_ne_zero (by omega)
  have follows : InnerFollows c.enter.depth
      (fun floor (inner : Cursor) (_ : c.position < inner.position) _ =>
        expression tokens floor inner)
      (Expr.read room) := by
    intro floor inner further inside same
    have := follows_expression tokens floor inner
    rwa [same, show nestingLimit - c.enter.depth = room by omega] at this
  rw [roomy, Expr.read]
  rcases follows_operand follows with
    ⟨e, failed, failed'⟩ | ⟨first, reads, same, shorter, reads'⟩
  · rw [failed, failed']
    exact .inl ⟨e, rfl, rfl⟩
  rw [reads, reads']
  rcases follows_climb follows floor first same with
    ⟨e, failed, failed'⟩ | ⟨found, climbs, same', shorter', climbs'⟩
  · simp only [failed, failed']
    exact .inl ⟨e, rfl, rfl⟩
  · simp only [climbs, climbs']
    have restored : found.cursor.leave.depth = c.depth := by
      show found.cursor.depth - 1 = c.depth
      rw [same', deeper, Nat.add_sub_cancel]
    exact .inr ⟨_, rfl, restored, _, rfl⟩
termination_by tokens.length - c.position
decreasing_by omega

/-- What a cursor finds is read, and the cursor is back at its depth. -/
theorem reads_of_expression {position : Nat} {found : Found tokens position}
    (finds : expression tokens floor ⟨position, depth⟩ = .ok found) :
    found.cursor.depth = depth ∧
      Reads (Expr.read (nestingLimit - depth) floor (tokens.drop position)) found.tree
        (tokens.drop found.cursor.position) := by
  rcases follows_expression tokens floor ⟨position, depth⟩ with
    ⟨e, failed, _⟩ | ⟨found', finds', same, reads⟩
  · cases finds.symm.trans failed
  · cases finds.symm.trans finds'
    exact ⟨same, reads⟩

/-- A cursor finds what is read up to a place in the row. -/
theorem expression_of_reads {position behind : Nat} {tree : Expr} (inside : behind ≤ tokens.length)
    (reads : Reads (Expr.read (nestingLimit - depth) floor (tokens.drop position)) tree
      (tokens.drop behind)) :
    ∃ found : Found tokens position, expression tokens floor ⟨position, depth⟩ = .ok found ∧
      found.tree = tree ∧ found.cursor = ⟨behind, depth⟩ := by
  rcases follows_expression tokens floor ⟨position, depth⟩ with
    ⟨e, _, failed⟩ | ⟨found, finds, same, reads'⟩
  · obtain ⟨_, read⟩ := reads
    cases read.symm.trans failed
  · obtain ⟨sameTree, sameRest⟩ := reads'.unique reads
    -- Two places with the same tokens behind them are the same place.
    have lengths := congrArg List.length sameRest
    simp only [List.length_drop] at lengths
    have place : found.cursor.position = behind := by
      have := found.inside
      omega
    exact ⟨found, finds, sameTree, congrArg₂ Cursor.mk place same⟩

/-! ## Blocks -/

/-- The tokens from a place on are a block and what follows it. -/
theorem drop_eq_extract_append {position behind : Nat} (le : position ≤ behind) :
    tokens.drop position = tokens.extract position behind ++ tokens.drop behind := by
  rw [List.extract_eq_take_drop]
  conv => lhs; rw [← List.take_append_drop (behind - position) (tokens.drop position)]
  rw [List.drop_drop, Nat.add_sub_cancel' le]

/-- What an expression takes is a block, and it takes this block in any row that has it there and
does not go on behind it. -/
theorem exists_block (below : floor < 30) {position : Nat} {found : Found tokens position}
    (finds : expression tokens floor ⟨position, depth⟩ = .ok found) :
    Stops floor (tokens.drop found.cursor.position) ∧
      ∀ other : List Token,
        other.extract position found.cursor.position =
          tokens.extract position found.cursor.position →
        Stops floor (other.drop found.cursor.position) →
          ∃ found' : Found other position,
            expression other floor ⟨position, depth⟩ = .ok found' ∧
              found'.tree = found.tree ∧ found'.cursor = found.cursor := by
  obtain ⟨restored, reads⟩ := reads_of_expression finds
  obtain ⟨stops, taken, row, again⟩ := Grammar.read_in_front below reads
  refine ⟨stops, fun other sameBlock otherStops => ?_⟩
  have le := Nat.le_of_lt found.further
  have block : taken = tokens.extract position found.cursor.position := by
    rw [drop_eq_extract_append le] at row
    exact (List.append_cancel_right row).symm
  have reads' := again (Nat.le_refl _) otherStops
  rw [block, ← sameBlock, ← drop_eq_extract_append le] at reads'
  have inside : found.cursor.position ≤ other.length := by
    have lengths := congrArg List.length sameBlock
    have := found.inside
    have := found.further
    simp only [List.extract_eq_take_drop, List.length_take, List.length_drop] at lengths
    omega
  obtain ⟨found', finds', sameTree, cursor⟩ := expression_of_reads inside reads'
  exact ⟨found', finds', sameTree, cursor.trans (congrArg₂ Cursor.mk rfl restored.symm)⟩

/-! ## Where reading ends -/

/-- What stands in an operand, or behind an operator, is read from a shorter row. -/
theorem reads_inside_behind {inner inner' : Reader} {ts : List Token}
    (same : ∀ floor rest, rest.length < ts.length → inner floor rest = inner' floor rest) :
    Expr.operand inner ts = Expr.operand inner' ts ∧
      ∀ left, Expr.climb inner floor left ts = Expr.climb inner' floor left ts := by
  have agrees : Grammar.AgreesBehind (fun _ => False) ts inner inner' :=
    fun floor rest shorter => .inr (same floor rest shorter)
  exact ⟨(Grammar.operand_agree agrees).resolve_left fun ⟨_, impossible, _⟩ => impossible,
    fun left => (Grammar.climb_agree agrees left).resolve_left fun ⟨_, impossible, _⟩ => impossible⟩

/-- An expression that is read from a place on takes a block of the row, which is not empty.  The
cursor is back at its depth, and the next token is no operator that binds tighter than the floor.
`Expr.read` takes the same tokens.  In any other row with this block at the same place, and no such
operator behind it, the same tree is read up to the same place.

Reading ends on every row.  Everything inside an expression is read from shorter rows, a round of
climbing ends further right than it starts, and where there is room for more expressions than tokens
are left, the room makes no difference. -/
theorem expression_takes_block (tokens : List Token) {floor : Nat} (below : floor < 30)
    (p d : Nat) :
    (∀ found : Found tokens p, expression tokens floor ⟨p, d⟩ = .ok found →
      ∃ q, found.cursor = ⟨q, d⟩ ∧ p < q ∧ q ≤ tokens.length ∧ Stops floor (tokens.drop q) ∧
        Reads (Expr.read (nestingLimit - d) floor (tokens.drop p)) found.tree (tokens.drop q) ∧
        ∀ other : List Token, other.extract p q = tokens.extract p q → Stops floor (other.drop q) →
          ∃ found' : Found other p, expression other floor ⟨p, d⟩ = .ok found' ∧
            found'.tree = found.tree ∧ found'.cursor = ⟨q, d⟩) ∧
    (∀ inner inner' : Reader,
      (∀ floor rest, rest.length < (tokens.drop p).length → inner floor rest = inner' floor rest) →
      Expr.operand inner (tokens.drop p) = Expr.operand inner' (tokens.drop p) ∧
        ∀ left, Expr.climb inner floor left (tokens.drop p) =
          Expr.climb inner' floor left (tokens.drop p)) ∧
    (∀ (inner : Inner tokens p) (left : Found tokens p) (next : Found tokens left.cursor.position),
      round inner floor left = .ok (some next) → left.cursor.position < next.cursor.position) ∧
    ∀ room, (tokens.drop p).length < room →
      Expr.read room floor (tokens.drop p) =
        Expr.read ((tokens.drop p).length + 1) floor (tokens.drop p) := by
  refine ⟨fun found finds => ?_, fun _ _ => reads_inside_behind, fun _ _ next _ => next.further,
    fun room enough => Grammar.read_eq_of_length_lt (Nat.lt_succ_self _) enough⟩
  obtain ⟨depth, reads⟩ := reads_of_expression finds
  have restored : found.cursor = ⟨found.cursor.position, d⟩ := congrArg (Cursor.mk _) depth
  obtain ⟨stops, again⟩ := exists_block below finds
  refine ⟨found.cursor.position, restored, found.further, found.inside, stops, reads, ?_⟩
  intro other sameBlock otherStops
  rw [← restored]
  exact again other sameBlock otherStops

/-- The product in `1 + 2 ^ 3 * 4 + 5` is taken, behind the operator in front of it, and read in the
same way in `( - 2 ^ 3 * 4 )`. -/
theorem expression_takes_product :
    ∃ found : Found [.number (.int 1), .operator .plus, .number (.int 2), .operator .power,
        .number (.int 3), .operator .times, .number (.int 4), .operator .plus, .number (.int 5)] 2,
      expression _ 10 ⟨2, 1⟩ = .ok found ∧ found.cursor = ⟨7, 1⟩ ∧
        ∃ found' : Found [.operator .openParen, .operator .minus, .number (.int 2),
            .operator .power, .number (.int 3), .operator .times, .number (.int 4),
            .operator .closeParen] 2,
          expression _ 10 ⟨2, 1⟩ = .ok found' ∧ found'.tree = found.tree ∧
            found'.cursor = ⟨7, 1⟩ := by
  have finds : expression [.number (.int 1), .operator .plus, .number (.int 2), .operator .power,
      .number (.int 3), .operator .times, .number (.int 4), .operator .plus, .number (.int 5)] 10
      ⟨2, 1⟩ = .ok ⟨.binary "*" (.binary "^" (.number (.int 2)) (.number (.int 3)))
        (.number (.int 4)), ⟨7, 1⟩, by decide, by decide⟩ := by
    cbv
  obtain ⟨q, cursor, -, -, -, -, again⟩ := (expression_takes_block _ (by decide) 2 1).1 _ finds
  cases cursor
  obtain ⟨found', finds', tree, cursor⟩ :=
    again [.operator .openParen, .operator .minus, .number (.int 2), .operator .power,
      .number (.int 3), .operator .times, .number (.int 4), .operator .closeParen] rfl
      Grammar.stops_closeParen
  exact ⟨_, finds, rfl, found', finds', tree, cursor⟩

end FormulaEditor.Cursor
