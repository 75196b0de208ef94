import FormulaEditor.Proofs.Decimal.Rendered
import FormulaEditor.Proofs.Formula.Display
import FormulaEditor.Proofs.Validation.Records

/-! # Taking the text of a formula apart

Although no blanks are left inside parentheses, the text of a formula can be taken apart into its
labels again: they are the parentheses and what stands between parentheses and blanks.  Labels of
operators and numbers differ, and so do the texts of formulas of them.
-/

namespace FormulaEditor

/-! ## Taking apart -/

namespace Formula

def isParenthesis (g : Glyph) : Bool := g.isChar '(' || g.isChar ')'

/-- The word that ends, unless it is empty. -/
def ended (word : List Glyph) : List (List Glyph) := if word = [] then [] else [word]

/-- The parentheses of a text and the words between parentheses and blanks, `word` being the part of
a word that has been passed. -/
def words (word : List Glyph) : List Glyph → List (List Glyph)
  | [] => ended word
  | g :: rest =>
    if g.isBlank then ended word ++ words [] rest
    else if isParenthesis g then ended word ++ [g] :: words [] rest
    else words (word ++ [g]) rest

section

variable {front rest : List Glyph} {t t' : Token}

/-- A word ends where the text ends, and at blanks and parentheses. -/
def Ends (rest : List Glyph) : Prop := ∀ g ∈ rest.head?, (g.isBlank || isParenthesis g) = true

theorem words_of_ends (ends : Ends rest) : words front rest = ended front ++ words [] rest := by
  cases rest with
  | nil => simp [words, ended]
  | cons g rest =>
    have stop := ends g rfl
    rw [Bool.or_eq_true] at stop
    by_cases blank : g.isBlank = true
    · simp [words, blank, ended]
    · simp [words, blank, stop.resolve_left blank, ended]

theorem words_append (solid : ∀ g ∈ front, g.isBlank = false)
    (plain : ∀ g ∈ front, isParenthesis g = false) (before : List Glyph) :
    words before (front ++ rest) = words (before ++ front) rest := by
  induction front generalizing before with
  | nil => simp
  | cons g front ih =>
    rw [List.forall_mem_cons] at solid plain
    rw [List.cons_append, words, solid.1, plain.1]
    simpa using ih solid.2 plain.2 (before ++ [g])

/-- The first word is the first label. -/
theorem words_label (word : t.IsWord)
    (ends : t = .operator .openParen ∨ t = .operator .closeParen ∨ Ends rest) :
    words [] (t.label.glyphs ++ rest) = t.label.glyphs :: words [] rest := by
  -- A parenthesis is a word of its own, whatever follows it.
  by_cases opening : t = .operator .openParen
  · subst opening
    simp only [Token.glyphs_operator, List.singleton_append, words]
    rfl
  by_cases closing : t = .operator .closeParen
  · subst closing
    simp only [Token.glyphs_operator, List.singleton_append, words]
    rfl
  have plain : ∀ g ∈ t.label.glyphs, isParenthesis g = false := by
    intro g member
    rw [isParenthesis, Bool.or_eq_false_iff]
    exact ⟨Bool.eq_false_iff.mpr fun opens => opening (word.opens g member opens),
      Bool.eq_false_iff.mpr fun closes => closing (word.closes g member closes)⟩
  have ends := (ends.resolve_left opening).resolve_left closing
  rw [words_append word.solid plain, List.nil_append, words_of_ends ends, ended,
    if_neg word.nonempty, List.singleton_append]

theorem words_gap (t t' : Token) (rest : List Glyph) :
    words [] (gap t t' ++ rest) = words [] rest := by
  rw [gap]
  split
  · rfl
  · rw [List.singleton_append, words, if_pos isBlank_space]
    rfl

/-- A label is followed by the end, by a blank or by a parenthesis, unless it is an opening one. -/
theorem ends_gap (word : t'.IsWord) (rest : Formula) :
    t = .operator .openParen ∨ t = .operator .closeParen ∨
      Ends (gap t t' ++ joined gap (t' :: rest)) := by
  by_cases opening : t = .operator .openParen
  · exact .inl opening
  refine .inr (.inr fun g head => ?_)
  by_cases closing : t' = .operator .closeParen
  · have closes := closes_joined gap word rest
    rw [gap, if_pos (.inr closing), List.nil_append] at head
    rw [Option.mem_def] at head
    rw [head, Option.any_some, decide_eq_true closing] at closes
    rw [isParenthesis, closes, Bool.or_true, Bool.or_true]
  · rw [gap, if_neg (not_or.mpr ⟨opening, closing⟩), List.singleton_append] at head
    cases head
    rw [isBlank_space, Bool.true_or]

end

/-- The words of the text of a formula are its labels. -/
theorem words_joined {f : Formula} (areWords : ∀ t ∈ f, t.IsWord) :
    words [] (joined gap f) = f.map fun t => t.label.glyphs := by
  induction f with
  | nil => rfl
  | cons t rest ih =>
    obtain ⟨word, areWords⟩ := List.forall_mem_cons.mp areWords
    cases rest with
    | nil =>
      have ends : Ends [] := nofun
      have last := words_label word (.inr (.inr ends))
      rwa [List.append_nil] at last
    | cons t' rest =>
      have next' := areWords t' List.mem_cons_self
      rw [joined, words_label word (ends_gap next' rest), words_gap, ih areWords]
      rfl

end Formula

/-! ## Operators and numbers -/

namespace Token

/-- The token is an operator or a finite number, in the form that rounding gives. -/
def IsArithmetic : Token → Prop
  | .operator _ => True
  | .number x => x.isFinite = true ∧ x.IsCanonical
  | .variable .. | .text _ => False

instance : DecidablePred IsArithmetic
  | .operator _ => .isTrue trivial
  | .number x => inferInstanceAs (Decidable (x.isFinite = true ∧ x.IsCanonical))
  | .variable .. | .text _ => .isFalse id

variable {t t' : Token}

theorem glyphs_number {x : Number} {w : WrittenNumeral} (text : x.text = String.ofList w.text) :
    (Token.number x).label.glyphs = w.text.map .char := by
  rw [label, text, RawText.glyphs, String.toList_ofList]

theorem isWord_number {x : Number} {w : WrittenNumeral} (text : x.text = String.ofList w.text) :
    (Token.number x).IsWord := by
  have other {g : Glyph} (member : g ∈ (Token.number x).label.glyphs) {c : Char}
      (isParenthesis : c = '(' ∨ c = ')') : ¬ g.isChar c = true := by
    rw [glyphs_number text] at member
    obtain ⟨c', inside, rfl⟩ := List.mem_map.mp member
    intro same
    obtain rfl : c' = c := by simpa [Glyph.isChar] using same
    rcases isParenthesis with rfl | rfl <;> rcases w.mem_text inside with mark | digit
    · exact absurd mark (by decide)
    · exact absurd digit (by decide)
    · exact absurd mark (by decide)
    · exact absurd digit (by decide)
  refine ⟨?_, ?_, ?_, ?_⟩
  · rw [glyphs_number text]
    simpa using w.text_ne_nil
  · rw [glyphs_number text]
    intro g member
    obtain ⟨c, inside, rfl⟩ := List.mem_map.mp member
    exact (w.ordinary inside).1
  · exact fun g member opens => absurd opens (other member (.inl rfl))
  · exact fun g member closes => absurd closes (other member (.inr rfl))

theorem IsArithmetic.isWord (arithmetic : t.IsArithmetic) : t.IsWord := by
  cases t with
  | operator op => exact isWord_operator op
  | number x =>
    obtain ⟨w, text, -⟩ := Number.exists_written arithmetic.1 arithmetic.2
    exact isWord_number text
  | «variable» id name value => exact arithmetic.elim
  | text s => exact arithmetic.elim

theorem symbol_ne_text (op : Operator) (w : WrittenNumeral) : op.symbol ≠ String.ofList w.text := by
  intro same
  have read := w.read?_text
  rw [← String.toList_ofList (l := w.text), ← same] at read
  have none : Numeral.read? Text.digit? op.symbol.toList = none := by cases op <;> decide
  rw [none] at read
  cases read

/-- The labels of different operators and numbers differ. -/
theorem IsArithmetic.label_inj (arithmetic : t.IsArithmetic) (arithmetic' : t'.IsArithmetic) :
    t.label = t'.label ↔ t = t' := by
  refine ⟨fun same => ?_, congrArg _⟩
  cases t with
  | operator op =>
    cases t' with
    | operator op' => rw [Operator.symbol_inj.mp (RawText.whole.inj same)]
    | number y =>
      obtain ⟨w, text, -⟩ := Number.exists_written arithmetic'.1 arithmetic'.2
      exact absurd ((RawText.whole.inj same).trans text) (symbol_ne_text op w)
    | _ => exact arithmetic'.elim
  | number x =>
    cases t' with
    | operator op =>
      obtain ⟨w, text, -⟩ := Number.exists_written arithmetic.1 arithmetic.2
      exact absurd ((RawText.whole.inj same).symm.trans text) (symbol_ne_text op w)
    | number y =>
      have texts := RawText.whole.inj same
      rw [(Number.text_inj arithmetic.1 arithmetic.2 arithmetic'.1 arithmetic'.2).mp texts]
    | _ => exact arithmetic'.elim
  | _ => exact arithmetic.elim

end Token

/-! ## Formulas -/

namespace Formula

variable {f g : Formula}

theorem eq_of_labels (fArithmetic : ∀ t ∈ f, t.IsArithmetic) (gArithmetic : ∀ t ∈ g, t.IsArithmetic)
    (same : f.map (fun t => t.label.glyphs) = g.map fun t => t.label.glyphs) : f = g := by
  induction f generalizing g with
  | nil => exact (List.map_eq_nil_iff.mp same.symm).symm
  | cons t rest ih =>
    obtain ⟨t', rest', rfl, first, others⟩ := List.map_eq_cons_iff.mp same.symm
    rw [List.forall_mem_cons] at fArithmetic gArithmetic
    rw [(fArithmetic.1.label_inj gArithmetic.1).mp (RawText.glyphs_inj.mp first.symm),
      ih fArithmetic.2 gArithmetic.2 others.symm]

/-- The text of a formula of operators and numbers determines the formula, whether it is grammatical
or not. -/
theorem expression_determines (fArithmetic : ∀ t ∈ f, t.IsArithmetic)
    (gArithmetic : ∀ t ∈ g, t.IsArithmetic) : f.expression = g.expression ↔ f = g := by
  refine ⟨fun same => ?_, congrArg _⟩
  have fWords := fun t member => (fArithmetic t member).isWord
  have gWords := fun t member => (gArithmetic t member).isWord
  have glyphs : joined gap f = joined gap g := by
    rw [← glyphs_expression fWords, same, glyphs_expression gWords]
  apply eq_of_labels fArithmetic gArithmetic
  rw [← words_joined fWords, glyphs, words_joined gWords]

/-- A difference is displayed with a space behind the minus, and a negative number without. -/
theorem expression_determines_minus :
    expression [.operator .openParen, .number (.int 1), .operator .minus, .number (.int 2),
        .operator .closeParen] = "(1 - 2)" ∧
      expression [.operator .openParen, .number (.int 1), .number (.int (-2)),
        .operator .closeParen] = "(1 -2)" ∧
      expression [.operator .openParen, .number (.int 1), .operator .minus, .number (.int 2),
          .operator .closeParen] ≠
        expression [.operator .openParen, .number (.int 1), .number (.int (-2)),
          .operator .closeParen] := by
  refine ⟨by decide, by decide, ?_⟩
  rw [ne_eq, expression_determines (by decide) (by decide)]
  decide

end Formula

end FormulaEditor
