import FormulaEditor.Evaluation.Answer
import FormulaEditor.Proofs.Grammar.Leaves
import FormulaEditor.Proofs.Grammar.Nesting

/-! # Expressions in parentheses

An expression in parentheses can stand wherever a number or a variable can.  In the tree it takes
the place of that leaf, whatever stands around it.  Only the limit on nesting can be in the way: the
depth of the leaf is added to the depths of the operands of the expression.
-/

namespace FormulaEditor

/-- A row in parentheses. -/
def Formula.parenthesised (f : Formula) : Formula :=
  .operator .openParen :: (f ++ [.operator .closeParen])

namespace Grammar

open FormulaEditor.Expr (ofTokens)
open FormulaEditor.Formula (parenthesised)

/-! ## Depths -/

/-- How deep the operands are, from left to right: one more than the constructs around each. -/
def Derivation.depths {c : Category} (d : Derivation c) : List Nat := d.enclosures.map (· + 1)

theorem Derivation.nesting_lt_iff (d : Derivation .expression) :
    d.nesting < nestingLimit ↔ ∀ depth ∈ d.depths, depth ≤ 100 := by
  rw [nestingLimit, Nat.lt_succ_iff, d.nesting_le_iff, depths, List.forall_mem_map]
  exact forall₂_congr fun n _ => by omega

theorem Derivation.length_enclosures {c : Category} (d : Derivation c) :
    d.enclosures.length = (operands d.tokens).length := by
  induction d <;> simp_all [enclosures, tokens]

/-- One of the numbers gives way to others, which are raised by it and one more. -/
def Deepened (inner : List Nat) (place : Nat) (before after : List Nat) : Prop :=
  ∃ front depth back, front.length = place ∧ before = front ++ depth :: back ∧
    after = front ++ inner.map (· + (depth + 1)) ++ back

namespace Deepened

variable {inner before after : List Nat} {place : Nat}

theorem append_right (deepened : Deepened inner place before after) (more : List Nat) :
    Deepened inner place (before ++ more) (after ++ more) := by
  obtain ⟨front, depth, back, length, rfl, rfl⟩ := deepened
  exact ⟨front, depth, back ++ more, length, by simp, by simp⟩

theorem append_left (deepened : Deepened inner place before after) (less : List Nat) :
    Deepened inner (less.length + place) (less ++ before) (less ++ after) := by
  obtain ⟨front, depth, back, rfl, rfl, rfl⟩ := deepened
  exact ⟨less ++ front, depth, back, by simp, by simp, by simp⟩

theorem succ (deepened : Deepened inner place before after) :
    Deepened inner place (before.map (· + 1)) (after.map (· + 1)) := by
  obtain ⟨front, depth, back, length, rfl, rfl⟩ := deepened
  refine ⟨front.map (· + 1), depth + 1, back.map (· + 1), by simp [length], by simp, ?_⟩
  simp [Nat.add_assoc]

end Deepened

/-! ## Derivations with an expression in the place of an operand -/

/-- In the second meaning another tree is in the place of a leaf of the first one. -/
def ReplacesLeaf (place : Nat) (other : Expr) :
    (c : Category) → Derivation.Meaning c → Derivation.Meaning c → Prop
  | .moreTerms, extend, extend' | .moreFactors, extend, extend' =>
    ∀ left : Expr, extend' left =
      Expr.replaceLeaf (extend left) (left.leaves.length + place) other
  | .expression, tree, tree' | .term, tree, tree' | .signed, tree, tree' | .power, tree, tree'
  | .atom, tree, tree' => tree' = Expr.replaceLeaf tree place other

/-- Further terms and factors leave the leaves in front of them in their places. -/
def KeepsPlaces : (c : Category) → Derivation.Meaning c → Prop
  | .moreTerms, extend | .moreFactors, extend => ∀ (left other : Expr) (place : Nat),
    place < left.leaves.length →
      Expr.replaceLeaf (extend left) place other = extend (left.replaceLeaf place other)
  | .expression, _ | .term, _ | .signed, _ | .power, _ | .atom, _ => True

theorem Derivation.keepsPlaces {c : Category} (d : Derivation c) : KeepsPlaces c d.tree := by
  induction d with
  | noFactor | noTerm => exact fun _ _ _ _ => rfl
  | factor symbol next more _ ih | summand symbol next more _ ih =>
    intro left other place inLeft
    have inside : place < (Expr.binary symbol.operator.symbol left next.tree).leaves.length := by
      simp [Expr.leaves]
      omega
    rw [tree, ih _ other place inside, Expr.replaceLeaf_left inLeft]
  | _ => trivial

/-- A leaf of the right operand is replaced in what is made of the operator and its operands. -/
theorem replaceLeaf_next {extend : Expr → Expr} {next other : Expr} {place : Nat}
    (keeps : ∀ (left other : Expr) (place : Nat), place < left.leaves.length →
      (extend left).replaceLeaf place other = extend (left.replaceLeaf place other))
    (inNext : place < next.leaves.length) (symbol : String) (left : Expr) :
    (extend (.binary symbol left next)).replaceLeaf (left.leaves.length + place) other =
      extend (.binary symbol left (next.replaceLeaf place other)) := by
  have inside : left.leaves.length + place < (Expr.binary symbol left next).leaves.length := by
    rw [Expr.leaves, List.length_append]
    omega
  rw [keeps _ _ _ inside, Expr.replaceLeaf_right]

/-- A place in a row that is put together is in one of the parts. -/
theorem append_eq_append_cons {α : Type} {a b front back : List α} {x : α}
    (same : a ++ b = front ++ x :: back) :
    (∃ middle, a = front ++ x :: middle ∧ back = middle ++ b) ∨
      ∃ middle, front = a ++ middle ∧ b = middle ++ x :: back := by
  rcases List.append_eq_append_iff.mp same with ⟨middle, rfl, rfl⟩ | ⟨middle, rfl, split⟩
  · exact .inr ⟨middle, rfl, rfl⟩
  · cases middle with
    | nil => exact .inr ⟨[], by simp, by simpa using split.symm⟩
    | cons y middle =>
      cases split
      exact .inl ⟨middle, rfl, rfl⟩

/-- A derivation for a row in which an expression in parentheses is in the place of an operand that
is behind `front` and in front of `back`. -/
structure Grafted {c : Category} (inner : Derivation .expression) (front back : List Token)
    (d d' : Derivation c) : Prop where
  tokens : d'.tokens = front ++ parenthesised inner.tokens ++ back
  tree : ReplacesLeaf (operands front).length inner.tree c d.tree d'.tree
  enclosures : Deepened inner.enclosures (operands front).length d.enclosures d'.enclosures

namespace Grafted

variable {inner : Derivation .expression} {front back : List Token}

/-- The operand is one of the derivation. -/
theorem place_lt {c : Category} {d d' : Derivation c} (grafted : Grafted inner front back d d') :
    (operands front).length < (operands d.tokens).length := by
  obtain ⟨shallow, depth, deep, length, same, -⟩ := grafted.enclosures
  rw [← d.length_enclosures, same, ← length]
  simp

theorem place_lt_leaves {c : Category} {d d' : Derivation c}
    (grafted : Grafted inner front back d d') {tree : Expr}
    (leaves : tree.leaves = operands d.tokens) : (operands front).length < tree.leaves.length := by
  rw [leaves]
  exact grafted.place_lt

theorem group {g g' : Derivation .expression} (grafted : Grafted inner front back g g') :
    Grafted inner (.operator .openParen :: front) (back ++ [.operator .closeParen])
      (.group g) (.group g') where
  tokens := by simp [Derivation.tokens, grafted.tokens]
  tree := grafted.tree
  enclosures := grafted.enclosures.succ

theorem sign {operand operand' : Derivation .signed} (symbol : SumSymbol)
    (grafted : Grafted inner front back operand operand') :
    Grafted inner (.operator symbol.operator :: front) back
      (.sign symbol operand) (.sign symbol operand') where
  tokens := by simp [Derivation.tokens, grafted.tokens]
  tree := by simpa [ReplacesLeaf, Derivation.tree, Expr.replaceLeaf] using grafted.tree
  enclosures := grafted.enclosures.succ

theorem base {base base' : Derivation .atom} (grafted : Grafted inner front back base base')
    (exponent : Derivation .signed) :
    Grafted inner front (back ++ .operator .power :: exponent.tokens)
      (.raised base exponent) (.raised base' exponent) where
  tokens := by simp [Derivation.tokens, grafted.tokens]
  tree := by
    have tree : base'.tree = base.tree.replaceLeaf _ inner.tree := grafted.tree
    have inLeft := grafted.place_lt_leaves base.hasLeaves
    rw [ReplacesLeaf, Derivation.tree, Derivation.tree, Expr.replaceLeaf_left inLeft, tree]
  enclosures := grafted.enclosures.append_right _

theorem exponent {exponent exponent' : Derivation .signed} (base : Derivation .atom)
    (grafted : Grafted inner front back exponent exponent') :
    Grafted inner (base.tokens ++ .operator .power :: front) back
      (.raised base exponent) (.raised base exponent') where
  tokens := by simp [Derivation.tokens, grafted.tokens]
  tree := by
    have leaves : base.tree.leaves = operands base.tokens := base.hasLeaves
    have tree : exponent'.tree = exponent.tree.replaceLeaf _ inner.tree := grafted.tree
    simp [ReplacesLeaf, Derivation.tree, ← leaves, Expr.replaceLeaf_right, tree]
  enclosures := by
    have deepened := grafted.enclosures.succ.append_left base.enclosures
    simpa [Derivation.enclosures, base.length_enclosures] using deepened

theorem term {first first' : Derivation .signed} (grafted : Grafted inner front back first first')
    (more : Derivation .moreFactors) :
    Grafted inner front (back ++ more.tokens) (.term first more) (.term first' more) where
  tokens := by simp [Derivation.tokens, grafted.tokens]
  tree := by
    have tree : first'.tree = first.tree.replaceLeaf _ inner.tree := grafted.tree
    have inFirst := grafted.place_lt_leaves first.hasLeaves
    rw [ReplacesLeaf, Derivation.tree, Derivation.tree, more.keepsPlaces _ _ _ inFirst, tree]
  enclosures := grafted.enclosures.append_right _

theorem factors {more more' : Derivation .moreFactors} (first : Derivation .signed)
    (grafted : Grafted inner front back more more') :
    Grafted inner (first.tokens ++ front) back (.term first more) (.term first more') where
  tokens := by simp [Derivation.tokens, grafted.tokens]
  tree := by
    have leaves : first.tree.leaves = operands first.tokens := first.hasLeaves
    simpa [ReplacesLeaf, Derivation.tree, ← leaves] using grafted.tree first.tree
  enclosures := by
    have deepened := grafted.enclosures.append_left first.enclosures
    simpa [Derivation.enclosures, first.length_enclosures] using deepened

theorem factor {next next' : Derivation .signed} (symbol : FactorSymbol)
    (grafted : Grafted inner front back next next') (more : Derivation .moreFactors) :
    Grafted inner (.operator symbol.operator :: front) (back ++ more.tokens)
      (.factor symbol next more) (.factor symbol next' more) where
  tokens := by simp [Derivation.tokens, grafted.tokens]
  tree := by
    intro left
    have tree : next'.tree = next.tree.replaceLeaf _ inner.tree := grafted.tree
    have inNext := grafted.place_lt_leaves next.hasLeaves
    rw [operands_operator, Derivation.tree, Derivation.tree, tree,
      replaceLeaf_next more.keepsPlaces inNext]
  enclosures := grafted.enclosures.succ.append_right _

theorem moreFactors {more more' : Derivation .moreFactors} (symbol : FactorSymbol)
    (next : Derivation .signed) (grafted : Grafted inner front back more more') :
    Grafted inner (.operator symbol.operator :: (next.tokens ++ front)) back
      (.factor symbol next more) (.factor symbol next more') where
  tokens := by simp [Derivation.tokens, grafted.tokens]
  tree := by
    intro left
    have leaves : next.tree.leaves = operands next.tokens := next.hasLeaves
    have tree := grafted.tree (.binary symbol.operator.symbol left next.tree)
    simpa [Derivation.tree, Expr.leaves, ← leaves, Nat.add_assoc] using tree
  enclosures := by
    have deepened := grafted.enclosures.append_left (next.enclosures.map (· + 1))
    simpa [Derivation.enclosures, next.length_enclosures] using deepened

theorem expression {first first' : Derivation .term}
    (grafted : Grafted inner front back first first') (more : Derivation .moreTerms) :
    Grafted inner front (back ++ more.tokens) (.expression first more)
      (.expression first' more) where
  tokens := by simp [Derivation.tokens, grafted.tokens]
  tree := by
    have tree : first'.tree = first.tree.replaceLeaf _ inner.tree := grafted.tree
    have inFirst := grafted.place_lt_leaves first.hasLeaves
    rw [ReplacesLeaf, Derivation.tree, Derivation.tree, more.keepsPlaces _ _ _ inFirst, tree]
  enclosures := grafted.enclosures.append_right _

theorem terms {more more' : Derivation .moreTerms} (first : Derivation .term)
    (grafted : Grafted inner front back more more') :
    Grafted inner (first.tokens ++ front) back (.expression first more)
      (.expression first more') where
  tokens := by simp [Derivation.tokens, grafted.tokens]
  tree := by
    have leaves : first.tree.leaves = operands first.tokens := first.hasLeaves
    simpa [ReplacesLeaf, Derivation.tree, ← leaves] using grafted.tree first.tree
  enclosures := by
    have deepened := grafted.enclosures.append_left first.enclosures
    simpa [Derivation.enclosures, first.length_enclosures] using deepened

theorem summand {next next' : Derivation .term} (symbol : SumSymbol)
    (grafted : Grafted inner front back next next') (more : Derivation .moreTerms) :
    Grafted inner (.operator symbol.operator :: front) (back ++ more.tokens)
      (.summand symbol next more) (.summand symbol next' more) where
  tokens := by simp [Derivation.tokens, grafted.tokens]
  tree := by
    intro left
    have tree : next'.tree = next.tree.replaceLeaf _ inner.tree := grafted.tree
    have inNext := grafted.place_lt_leaves next.hasLeaves
    rw [operands_operator, Derivation.tree, Derivation.tree, tree,
      replaceLeaf_next more.keepsPlaces inNext]
  enclosures := grafted.enclosures.succ.append_right _

theorem moreTerms {more more' : Derivation .moreTerms} (symbol : SumSymbol)
    (next : Derivation .term) (grafted : Grafted inner front back more more') :
    Grafted inner (.operator symbol.operator :: (next.tokens ++ front)) back
      (.summand symbol next more) (.summand symbol next more') where
  tokens := by simp [Derivation.tokens, grafted.tokens]
  tree := by
    intro left
    have leaves : next.tree.leaves = operands next.tokens := next.hasLeaves
    have tree := grafted.tree (.binary symbol.operator.symbol left next.tree)
    simpa [Derivation.tree, Expr.leaves, ← leaves, Nat.add_assoc] using tree
  enclosures := by
    have deepened := grafted.enclosures.append_left (next.enclosures.map (· + 1))
    simpa [Derivation.enclosures, next.length_enclosures] using deepened

end Grafted

/-- A place behind an operator is in what follows the operator. -/
theorem cons_eq_append_cons {op : Operator} {ts front back : List Token} {x : Token} {leaf : Expr}
    (isLeaf : x.leaf? = some leaf) (row : .operator op :: ts = front ++ x :: back) :
    ∃ front', front = .operator op :: front' ∧ ts = front' ++ x :: back := by
  cases front with
  | nil =>
    cases row
    cases isLeaf
  | cons t front' =>
    cases row
    exact ⟨front', rfl, rfl⟩

theorem exists_grafted {c : Category} (inner : Derivation .expression) (d : Derivation c)
    {x : Token} {leaf : Expr} (isLeaf : x.leaf? = some leaf) {front back : List Token}
    (row : d.tokens = front ++ x :: back) : ∃ d' : Derivation c, Grafted inner front back d d' := by
  -- The operand is in one of the parts of the rule, and what is derived from the other parts stays.
  induction d generalizing front back with
  | number value | named id name value =>
    obtain ⟨rfl, rfl⟩ : front = [] ∧ back = [] := by
      cases front <;> simp_all [Derivation.tokens]
    refine ⟨.group inner, by simp [Derivation.tokens, parenthesised], rfl, [], 0, [], rfl, rfl, ?_⟩
    simp [Derivation.enclosures]
  | group g ih =>
    obtain ⟨front, rfl, behind⟩ := cons_eq_append_cons isLeaf row
    rcases append_eq_append_cons behind with ⟨middle, inside, rfl⟩ | ⟨middle, rfl, closing⟩
    · obtain ⟨g', grafted⟩ := ih inside
      exact ⟨_, grafted.group⟩
    · -- Nothing is behind the closing parenthesis.
      obtain ⟨_, -, none⟩ := cons_eq_append_cons isLeaf closing
      simp at none
  | single base ih =>
    obtain ⟨base', grafted⟩ := ih row
    exact ⟨.single base', grafted.tokens, grafted.tree, grafted.enclosures⟩
  | raised base exponent ihBase ihExponent =>
    rcases append_eq_append_cons row with ⟨middle, inside, rfl⟩ | ⟨middle, rfl, behind⟩
    · obtain ⟨base', grafted⟩ := ihBase inside
      exact ⟨_, grafted.base exponent⟩
    · obtain ⟨front, rfl, inside⟩ := cons_eq_append_cons isLeaf behind
      obtain ⟨exponent', grafted⟩ := ihExponent inside
      exact ⟨_, grafted.exponent base⟩
  | unsigned p ih =>
    obtain ⟨p', grafted⟩ := ih row
    exact ⟨.unsigned p', grafted.tokens, grafted.tree, grafted.enclosures⟩
  | sign symbol operand ih =>
    obtain ⟨front, rfl, inside⟩ := cons_eq_append_cons isLeaf row
    obtain ⟨operand', grafted⟩ := ih inside
    exact ⟨_, grafted.sign symbol⟩
  | term first more ihFirst ihMore =>
    rcases append_eq_append_cons row with ⟨middle, inside, rfl⟩ | ⟨middle, rfl, behind⟩
    · obtain ⟨first', grafted⟩ := ihFirst inside
      exact ⟨_, grafted.term more⟩
    · obtain ⟨more', grafted⟩ := ihMore behind
      exact ⟨_, grafted.factors first⟩
  | noFactor | noTerm => simp [Derivation.tokens] at row
  | factor symbol next more ihNext ihMore =>
    obtain ⟨front, rfl, behind⟩ := cons_eq_append_cons isLeaf row
    rcases append_eq_append_cons behind with ⟨middle, inside, rfl⟩ | ⟨middle, rfl, later⟩
    · obtain ⟨next', grafted⟩ := ihNext inside
      exact ⟨_, grafted.factor symbol more⟩
    · obtain ⟨more', grafted⟩ := ihMore later
      exact ⟨_, grafted.moreFactors symbol next⟩
  | expression first more ihFirst ihMore =>
    rcases append_eq_append_cons row with ⟨middle, inside, rfl⟩ | ⟨middle, rfl, behind⟩
    · obtain ⟨first', grafted⟩ := ihFirst inside
      exact ⟨_, grafted.expression more⟩
    · obtain ⟨more', grafted⟩ := ihMore behind
      exact ⟨_, grafted.terms first⟩
  | summand symbol next more ihNext ihMore =>
    obtain ⟨front, rfl, behind⟩ := cons_eq_append_cons isLeaf row
    rcases append_eq_append_cons behind with ⟨middle, inside, rfl⟩ | ⟨middle, rfl, later⟩
    · obtain ⟨next', grafted⟩ := ihNext inside
      exact ⟨_, grafted.summand symbol more⟩
    · obtain ⟨more', grafted⟩ := ihMore later
      exact ⟨_, grafted.moreTerms symbol next⟩

/-! ## Redundant parentheses -/

/-- An expression whose only operand is another one in parentheses. -/
def Derivation.inParentheses (d : Derivation .expression) : Derivation .expression :=
  .expression (.term (.unsigned (.single (.group d))) .noFactor) .noTerm

theorem Derivation.depths_inParentheses (d : Derivation .expression) :
    d.inParentheses.depths = d.depths.map (· + 1) := by
  simp [inParentheses, depths, enclosures]

theorem Derivation.inParentheses_repeat (d : Derivation .expression) (k : Nat) :
    (Nat.repeat inParentheses k d).tokens = Nat.repeat parenthesised k d.tokens ∧
      (Nat.repeat inParentheses k d).tree = d.tree ∧
      (Nat.repeat inParentheses k d).depths = d.depths.map (k + ·) := by
  induction k with
  | zero => simp [Nat.repeat]
  | succ k ih =>
    obtain ⟨row, tree, raised⟩ := ih
    refine ⟨?_, tree, ?_⟩
    · rw [Nat.repeat, Nat.repeat, ← row]
      simp [inParentheses, tokens, parenthesised]
    · rw [Nat.repeat, depths_inParentheses, raised, List.map_map]
      exact List.map_congr_left fun n _ => Nat.add_right_comm k n 1

/-- A row that has a derivation is read exactly if no operand is deeper than a hundred. -/
theorem ofTokens_tokens_of_depths (d : Derivation .expression) :
    ((∀ depth ∈ d.depths, depth ≤ 100) → ofTokens d.tokens = .ok d.tree) ∧
      ((∃ depth ∈ d.depths, 100 < depth) →
        ∃ rest, ofTokens d.tokens = .error ⟨.tooDeep, rest⟩) := by
  have fits_iff := d.nesting_lt_iff
  rcases ofTokens_tokens d with ⟨read, fits⟩ | ⟨refused, deep⟩
  · refine ⟨fun _ => read, fun ⟨depth, operand, beyond⟩ => ?_⟩
    have within := fits_iff.mp fits depth operand
    omega
  · exact ⟨fun shallow => absurd (fits_iff.mpr shallow) (Nat.not_lt.mpr deep), fun _ => refused⟩

/-- Where an operand stands, an expression in parentheses is read as the tree that it is alone. The
depth of the operand is added to the depths of its own operands: if they stay within a hundred the
row is read, and if not it is refused for its nesting. -/
theorem ofTokens_parenthesised {pre post sub : List Token} {x : Token} {leaf T S : Expr}
    (isLeaf : x.leaf? = some leaf) (outside : ofTokens (pre ++ x :: post) = .ok T)
    (inside : ofTokens sub = .ok S) :
    T.leaves[(operands pre).length]? = some leaf ∧
    ∃ d inner : Derivation .expression, d.tokens = pre ++ x :: post ∧ inner.tokens = sub ∧
      (∃ depth, d.depths[(operands pre).length]? = some depth ∧
        ((∀ n ∈ inner.depths, depth + n ≤ 100) →
          ofTokens (pre ++ parenthesised sub ++ post) =
            .ok (T.replaceLeaf (operands pre).length S)) ∧
        ((∃ n ∈ inner.depths, 100 < depth + n) →
          ∃ rest, ofTokens (pre ++ parenthesised sub ++ post) = .error ⟨.tooDeep, rest⟩)) ∧
      -- redundant parentheses
      ∀ k, ((∀ n ∈ inner.depths, k + n ≤ 100) →
          ofTokens (Nat.repeat parenthesised k sub) = .ok S ∧
            ∀ bindings, Formula.evaluate (Nat.repeat parenthesised k sub) bindings =
              Formula.evaluate sub bindings) ∧
        ((∃ n ∈ inner.depths, 100 < k + n) →
          ∃ rest, ofTokens (Nat.repeat parenthesised k sub) = .error ⟨.tooDeep, rest⟩) := by
  obtain ⟨d, row, fits, rfl⟩ := ofTokens_eq_ok_iff.mp outside
  obtain ⟨inner, rfl, -, rfl⟩ := ofTokens_eq_ok_iff.mp inside
  refine ⟨?_, d, inner, row, rfl, ?_, fun k => ?_⟩
  · rw [Expr.leaves_of_ofTokens outside, operands_append, operands_cons isLeaf]
    simp
  · obtain ⟨d', tokens, tree, shallow, depth, deep, length, before, after⟩ :=
      exists_grafted inner d isLeaf row
    have tree : d'.tree = d.tree.replaceLeaf (operands pre).length inner.tree := tree
    -- The depths left and right of the operand are those that were within the limit before.
    have within := (d.nesting_lt_iff.mp fits)
    simp only [Derivation.depths, before, List.map_append, List.map_cons, List.forall_mem_append,
      List.forall_mem_cons] at within
    obtain ⟨left, -, right⟩ := within
    have depths : d'.depths = shallow.map (· + 1) ++ inner.depths.map (depth + 1 + ·) ++
        deep.map (· + 1) := by
      simp only [Derivation.depths, after, List.map_append, List.map_map]
      congr 2
      exact List.map_congr_left fun n _ => by simp; omega
    have read := ofTokens_tokens_of_depths d'
    rw [tokens, tree, depths] at read
    refine ⟨depth + 1, by simp [Derivation.depths, before, ← length], fun raised => ?_,
      fun ⟨n, operand, beyond⟩ => ?_⟩
    · refine read.1 ?_
      simp only [List.forall_mem_append, List.forall_mem_map] at left right ⊢
      exact ⟨⟨left, raised⟩, right⟩
    · exact read.2 ⟨depth + 1 + n, by simpa using .inr (.inl operand), beyond⟩
  · obtain ⟨tokens, tree, depths⟩ := inner.inParentheses_repeat k
    have read := ofTokens_tokens_of_depths (Nat.repeat Derivation.inParentheses k inner)
    rw [tokens, tree, depths] at read
    refine ⟨fun raised => ?_, fun ⟨n, operand, beyond⟩ => ?_⟩
    · have same := read.1 (List.forall_mem_map.mpr raised)
      refine ⟨same, fun bindings => ?_⟩
      rw [Formula.evaluate, Formula.evaluate, Formula.outcome, Formula.outcome, same, inside]
    · exact read.2 ⟨k + n, List.mem_map_of_mem operand, beyond⟩

/-- The sum `1 + 4`. -/
def onePlusFour : Derivation .expression :=
  .expression (.term (.unsigned (.single (.number (.int 1)))) .noFactor)
    (.summand .plus (.term (.unsigned (.single (.number (.int 4)))) .noFactor) .noTerm)

/-- The product `2 * x ^ 3`. -/
def twiceCube : Derivation .expression :=
  .expression (.term (.unsigned (.single (.number (.int 2))))
    (.factor .times (.unsigned (.raised (.named (.whole "1") (.whole "x") (.int 0))
      (.unsigned (.single (.number (.int 3)))))) .noFactor)) .noTerm

/-- In `2 * x ^ 3` the sum `1 + 4` takes the place of `x`. -/
theorem ofTokens_parenthesised_sum :
    ofTokens ([.number (.int 2), .operator .times] ++
        parenthesised [.number (.int 1), .operator .plus, .number (.int 4)] ++
        [.operator .power, .number (.int 3)]) =
      .ok (.binary "*" (.number (.int 2))
        (.binary "^" (.binary "+" (.number (.int 1)) (.number (.int 4))) (.number (.int 3)))) := by
  have outside : ofTokens ([.number (.int 2), .operator .times] ++
      .variable (.whole "1") (.whole "x") (.int 0) :: [.operator .power, .number (.int 3)]) =
      .ok twiceCube.tree := ofTokens_eq_ok_iff.mpr ⟨twiceCube, rfl, by decide, rfl⟩
  have inside : ofTokens [.number (.int 1), .operator .plus, .number (.int 4)] =
      .ok onePlusFour.tree := ofTokens_eq_ok_iff.mpr ⟨onePlusFour, rfl, by decide, rfl⟩
  obtain ⟨-, d, inner, row, row', ⟨depth, place, reads, -⟩, -⟩ :=
    ofTokens_parenthesised rfl outside inside
  cases (Derivation.eq_of_tokens row : d = twiceCube)
  cases (Derivation.eq_of_tokens row' : inner = onePlusFour)
  -- The variable is two deep, in the right operand of the product; the four is two deep as well.
  cases place
  exact reads (by decide)

end Grammar

end FormulaEditor
