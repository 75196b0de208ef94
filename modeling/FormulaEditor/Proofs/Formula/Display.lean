import FormulaEditor.Formula
import FormulaEditor.Proofs.Text.RawText

/-! # Formulas on display

A label that is a word has no blank in it, and no parenthesis unless it is one.  Of a formula of
words, display keeps the labels whole, and two of them are separated by a space just if the first
is no opening and the second no closing parenthesis.
-/

namespace FormulaEditor

/-! ## Putting texts together -/

namespace RawText

theorem foldl_append (separator a b : RawText) (rest : List RawText) :
    rest.foldl (fun joined s => joined ++ separator ++ s) (a ++ b) =
      a ++ rest.foldl (fun joined s => joined ++ separator ++ s) b := by
  induction rest generalizing b with
  | nil => rfl
  | cons s rest ih =>
    rw [List.foldl_cons, List.foldl_cons, append_assoc a b, append_assoc a, ih]

theorem intercalate_cons_cons (separator a b : RawText) (rest : List RawText) :
    intercalate separator (a :: b :: rest) = a ++ separator ++ intercalate separator (b :: rest) :=
  foldl_append separator (a ++ separator) b rest

end RawText

namespace Formula

/-! ## Dropping blanks -/

section Dropping

variable {mark : Char} {after : Bool} {word : List Glyph}

/-- A word stays as it is.  Blanks are dropped behind it if it is made of marks. -/
theorem dropBlanksAfter_word (nonempty : word ≠ []) (solid : ∀ g ∈ word, g.isBlank = false)
    {marks : Bool} (made : ∀ g ∈ word, g.isChar mark = marks) (rest : List Glyph) :
    dropBlanksAfter mark after (word ++ rest) = word ++ dropBlanksAfter mark marks rest := by
  induction word generalizing after with
  | nil => exact absurd rfl nonempty
  | cons g word ih =>
    rw [List.forall_mem_cons] at solid made
    have kept : dropBlanksAfter mark after (g :: (word ++ rest)) =
        g :: dropBlanksAfter mark marks (word ++ rest) := by
      simp [dropBlanksAfter, solid.1, made.1]
    rw [List.cons_append, kept]
    by_cases last : word = []
    · simp [last]
    · rw [ih last solid.2 made.2, List.cons_append]

/-- What is dropped behind a row of glyphs depends on the last glyph of it that is kept. -/
theorem dropBlanksAfter_concat (gs : List Glyph) (g : Glyph) :
    dropBlanksAfter mark after (gs ++ [g]) =
      dropBlanksAfter mark after gs ++
        if (dropBlanksAfter mark after gs).getLast?.elim after (·.isChar mark) && g.isBlank then []
        else [g] := by
  induction gs generalizing after with
  | nil => cases dropped : after && g.isBlank <;> simp [dropBlanksAfter, dropped]
  | cons first gs ih =>
    rw [List.cons_append, dropBlanksAfter, dropBlanksAfter]
    split
    · next dropped =>
      rw [Bool.and_eq_true] at dropped
      rw [ih, dropped.1]
    · rw [ih, List.getLast?_cons, Option.elim_some]
      cases (dropBlanksAfter mark (first.isChar mark) gs).getLast? <;> simp

/-- A blank is dropped just if the first glyph that is kept behind it is a mark. -/
theorem dropBlanksBefore_cons (g : Glyph) (gs : List Glyph) :
    dropBlanksBefore mark (g :: gs) =
      (if (dropBlanksBefore mark gs).head?.any (·.isChar mark) && g.isBlank then [] else [g]) ++
        dropBlanksBefore mark gs := by
  have first :
      (dropBlanksBefore mark gs).head? = (dropBlanksAfter mark false gs.reverse).getLast? :=
    List.head?_reverse
  have marked (last : Option Glyph) :
      last.any (·.isChar mark) = last.elim false (·.isChar mark) := by
    cases last <;> rfl
  rw [first, marked, dropBlanksBefore, List.reverse_cons, dropBlanksAfter_concat,
    List.reverse_append, ← dropBlanksBefore]
  split <;> rfl

theorem dropBlanksBefore_word (solid : ∀ g ∈ word, g.isBlank = false) (rest : List Glyph) :
    dropBlanksBefore mark (word ++ rest) = word ++ dropBlanksBefore mark rest := by
  induction word with
  | nil => rfl
  | cons g word ih =>
    rw [List.forall_mem_cons] at solid
    rw [List.cons_append, dropBlanksBefore_cons, ih solid.2, solid.1]
    simp

end Dropping

end Formula

/-! ## Words -/

/-- The label is a word. -/
structure Token.IsWord (t : Token) : Prop where
  nonempty : t.label.glyphs ≠ []
  solid : ∀ g ∈ t.label.glyphs, g.isBlank = false
  opens : ∀ g ∈ t.label.glyphs, g.isChar '(' = true → t = .operator .openParen
  closes : ∀ g ∈ t.label.glyphs, g.isChar ')' = true → t = .operator .closeParen

theorem Token.glyphs_operator (op : Operator) :
    (Token.operator op).label.glyphs = [.char op.char] := by
  simp [label, Operator.symbol, RawText.glyphs]

theorem Token.isWord_operator (op : Operator) : (Token.operator op).IsWord where
  nonempty := by simp [glyphs_operator]
  solid := by
    rw [glyphs_operator, List.forall_mem_singleton]
    cases op <;> decide
  opens := by
    rw [glyphs_operator, List.forall_mem_singleton]
    cases op <;> decide
  closes := by
    rw [glyphs_operator, List.forall_mem_singleton]
    cases op <;> decide

namespace Formula

theorem isBlank_space : Glyph.isBlank (.char ' ') = true := by decide

/-- The labels of a formula with glyphs between each two. -/
def joined (between : Token → Token → List Glyph) : Formula → List Glyph
  | [] => []
  | [t] => t.label.glyphs
  | t :: t' :: rest => t.label.glyphs ++ (between t t' ++ joined between (t' :: rest))

/-- What separates two labels on display. -/
def gap (t t' : Token) : List Glyph :=
  if t = .operator .openParen ∨ t' = .operator .closeParen then [] else [.char ' ']

theorem glyphs_intercalate (separator : RawText) (f : Formula) :
    (RawText.intercalate separator (f.map Token.label)).glyphs =
      joined (fun _ _ => separator.glyphs) f := by
  fun_induction joined with
  | case1 => rfl
  | case2 t => rfl
  | case3 t t' rest ih =>
    rw [List.map_cons] at ih
    simp [RawText.intercalate_cons_cons, ih]

theorem dropBlanksAfter_label {t : Token} (word : t.IsWord) (after : Bool) (rest : List Glyph) :
    dropBlanksAfter '(' after (t.label.glyphs ++ rest) =
      t.label.glyphs ++ dropBlanksAfter '(' (t = .operator .openParen) rest := by
  apply dropBlanksAfter_word word.nonempty word.solid
  intro g member
  by_cases opening : t = .operator .openParen
  · subst opening
    simp_all [Token.label, Operator.symbol, Operator.char, RawText.glyphs, Glyph.isChar]
  · have unmarked : ¬ g.isChar '(' = true := fun marked => opening (word.opens g member marked)
    simpa [opening] using unmarked

/-- Behind opening parentheses nothing is left between two labels. -/
theorem dropBlanksAfter_joined {f : Formula} (words : ∀ t ∈ f, t.IsWord) (after : Bool) :
    dropBlanksAfter '(' after (joined (fun _ _ => [.char ' ']) f) =
      joined (fun t _ => if t = .operator .openParen then [] else [.char ' ']) f := by
  induction f generalizing after with
  | nil => rfl
  | cons t rest ih =>
    obtain ⟨word, words⟩ := List.forall_mem_cons.mp words
    cases rest with
    | nil =>
      have kept := dropBlanksAfter_label word after []
      simpa [joined, dropBlanksAfter] using kept
    | cons t' rest =>
      rw [joined, joined, dropBlanksAfter_label word]
      by_cases opening : t = .operator .openParen
      · simp [opening, dropBlanksAfter, isBlank_space, ih words]
      · simp [opening, dropBlanksAfter, Glyph.isChar, ih words]

theorem closes_joined (between : Token → Token → List Glyph) {t : Token} (word : t.IsWord)
    (rest : Formula) :
    (joined between (t :: rest)).head?.any (·.isChar ')') =
      decide (t = .operator .closeParen) := by
  obtain ⟨behind, label⟩ : ∃ behind, joined between (t :: rest) = t.label.glyphs ++ behind := by
    cases rest with
    | nil => exact ⟨[], (List.append_nil _).symm⟩
    | cons t' rest => exact ⟨_, rfl⟩
  obtain ⟨first, others, glyphs⟩ := List.exists_cons_of_ne_nil word.nonempty
  have closes := word.closes first (by simp [glyphs])
  rw [label, glyphs, List.cons_append, List.head?_cons, Option.any_some, Bool.eq_iff_iff,
    decide_eq_true_iff]
  refine ⟨closes, ?_⟩
  rintro rfl
  cases glyphs
  rfl

/-- In front of closing parentheses nothing is left between two labels. -/
theorem dropBlanksBefore_joined {f : Formula} (words : ∀ t ∈ f, t.IsWord) :
    dropBlanksBefore ')'
        (joined (fun t _ => if t = .operator .openParen then [] else [.char ' ']) f) =
      joined gap f := by
  induction f with
  | nil => rfl
  | cons t rest ih =>
    obtain ⟨word, words⟩ := List.forall_mem_cons.mp words
    cases rest with
    | nil =>
      have kept : dropBlanksBefore ')' (t.label.glyphs ++ []) = t.label.glyphs ++ [] :=
        dropBlanksBefore_word word.solid []
      simpa [joined] using kept
    | cons t' rest =>
      rw [joined, joined, dropBlanksBefore_word word.solid]
      by_cases opening : t = .operator .openParen
      · simp [opening, gap, ih words]
      · have closes := closes_joined gap (words t' List.mem_cons_self) rest
        rw [if_neg opening, List.singleton_append, dropBlanksBefore_cons, ih words, closes,
          isBlank_space]
        simp [gap, opening]

theorem exists_joined_cons (t : Token) (rest : Formula) :
    ∃ spaces : List Glyph, (∀ g ∈ spaces, g = .char ' ') ∧
      joined gap (t :: rest) = t.label.glyphs ++ (spaces ++ joined gap rest) := by
  cases rest with
  | nil => exact ⟨[], nofun, (List.append_nil _).symm⟩
  | cons t' rest =>
    refine ⟨gap t t', ?_, rfl⟩
    rw [gap]
    split <;> simp

/-- The glyphs of a formula of words on display. -/
theorem glyphs_expression {f : Formula} (words : ∀ t ∈ f, t.IsWord) :
    f.expression.glyphs = joined gap f := by
  rw [expression, displayed, RawText.glyphs_ofGlyphs, glyphs_intercalate]
  exact (congrArg _ (dropBlanksAfter_joined words false)).trans (dropBlanksBefore_joined words)

end Formula

end FormulaEditor
