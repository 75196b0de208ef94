import Mathlib.Algebra.Group.Int.Defs
import Mathlib.Data.List.Chain
import FormulaEditor.Proofs.Decimal.Numeral
import FormulaEditor.Proofs.Formula.Display
import FormulaEditor.Proofs.Typing.Tokenizer

/-! # Typing what is on display

A formula of operators and short natural numbers, no two numbers side by side, is restored by typing
its display.  The spaces of the display end up in pieces with a number or with nothing, and are
trimmed.
-/

namespace FormulaEditor

/-! ## Tokens that are typed as they are shown -/

/-- The token is an operator, or a natural number short enough not to be rounded when typed. -/
def Token.IsTypable : Token → Prop
  | .operator _ => True
  | .number (.int n) => 0 ≤ n ∧ n < 10 ^ Fragment.wholeDigits
  | _ => False

/-- Whether a token is typable can be tested. -/
instance : DecidablePred Token.IsTypable
  | .operator _ => .isTrue trivial
  | .number (.int n) => inferInstanceAs (Decidable (0 ≤ n ∧ n < 10 ^ Fragment.wholeDigits))
  | .number (.float _) | .variable .. | .text _ => .isFalse id

def Token.isNumber : Token → Bool
  | .number _ => true
  | _ => false

namespace Token

variable {n : Nat}

theorem glyphs_natural (n : Nat) :
    (Token.number (.int n)).label.glyphs = (Nat.toDigits 10 n).map .char := by
  rw [label, RawText.glyphs, Number.toList_text_natural]

theorem isDigit_of_mem_natural {g : Glyph} (member : g ∈ (Token.number (.int n)).label.glyphs) :
    ∃ c : Char, c.isDigit = true ∧ g = .char c := by
  rw [glyphs_natural, List.mem_map] at member
  obtain ⟨c, digit, rfl⟩ := member
  exact ⟨c, Text.isDigit_of_mem_toDigits digit, rfl⟩

theorem isWord_natural (n : Nat) : (Token.number (.int n)).IsWord where
  nonempty := by simp [glyphs_natural]
  solid := by
    intro g member
    obtain ⟨c, digit, rfl⟩ := isDigit_of_mem_natural member
    exact (Text.isOrdinary_of_isDigit digit).1
  opens := by
    intro g member opening
    obtain ⟨c, digit, rfl⟩ := isDigit_of_mem_natural member
    obtain rfl : c = '(' := by simpa [Glyph.isChar] using opening
    cases digit
  closes := by
    intro g member closing
    obtain ⟨c, digit, rfl⟩ := isDigit_of_mem_natural member
    obtain rfl : c = ')' := by simpa [Glyph.isChar] using closing
    cases digit

/-- The digits of a number do not end a piece. -/
theorem ending?_natural {g : Glyph} (member : g ∈ (Token.number (.int n)).label.glyphs) :
    RawText.ending? g = none := by
  obtain ⟨c, digit, rfl⟩ := isDigit_of_mem_natural member
  have other : c ≠ '\n' := by
    rintro rfl
    cases digit
  rw [RawText.ending?, if_neg other, (Text.isOrdinary_of_isDigit digit).2, Option.map_none]

theorem IsTypable.isWord {t : Token} (typable : t.IsTypable) : t.IsWord := by
  cases t with
  | operator op => exact isWord_operator op
  | number value =>
    cases value with
    | int n =>
      obtain ⟨k, rfl⟩ := Int.eq_ofNat_of_zero_le typable.1
      exact isWord_natural k
    | float x => exact typable.elim
  | _ => exact typable.elim

end Token

/-! ## Pieces with a number in them -/

/-- The token of a number that has been typed, if one has. -/
def Formula.held : Option Nat → Formula
  | none => []
  | some n => [.number (.int n)]

/-- Trimmed, the text is a number, or nothing. -/
def RawText.Holds (front : RawText) : Option Nat → Prop
  | none => front.isBlank = true
  | some n => n < 10 ^ Fragment.wholeDigits ∧ front.strip = (Token.number (.int n)).label

namespace RawText

variable {front back : RawText} {held : Option Nat}

theorem holds_empty : Holds "" none := rfl

theorem Holds.append_blank (holds : front.Holds held) (blank : back.isBlank = true) :
    (front ++ back).Holds held := by
  cases held with
  | none =>
    have all : front.isBlank = true := holds
    simp [Holds, isBlank_append, all, blank]
  | some n => exact ⟨holds.1, (strip_append_right blank).trans holds.2⟩

theorem Holds.append_natural (holds : front.Holds none) {n : Nat}
    (short : n < 10 ^ Fragment.wholeDigits) :
    (front ++ (Token.number (.int n)).label).Holds (some n) := by
  have solid := strip_of_solid (Token.isWord_natural n).solid
  exact ⟨short, (strip_append_left holds).trans solid⟩

theorem Holds.number? {n : Nat} (holds : front.Holds (some n)) :
    front.toString?.bind Fragment.number? = some (.int n) := by
  rw [Fragment.number?_eq, holds.2]
  simpa [Token.label, Number.text, toString, Int.repr, Nat.repr, toString?]
    using Fragment.numberOf?_toDigits holds.1

theorem Holds.isBlank {n : Nat} (holds : front.Holds (some n)) : ¬ front.isBlank = true := by
  intro blank
  rw [isBlank_iff, holds.2, ← glyphs_inj] at blank
  exact (Token.isWord_natural n).nonempty blank

/-- The piece gives the number in it, and what ends it. -/
theorem Holds.tokens (holds : front.Holds held) (ending : Piece.Ending) :
    Piece.tokens [] ⟨front, ending⟩ =
      Formula.held held ++
        match ending with
        | .operator op => [.operator op]
        | .line => [] := by
  cases held with
  | none =>
    cases ending with
    | operator op => simp [Piece.tokens, Fragment.flush_of_blank holds, Formula.held]
    | line => exact Piece.tokens_line_of_blank [] holds
  | some n =>
    have typed := holds.isBlank
    have number := holds.number?
    cases ending with
    | operator op => simp [Piece.tokens, Fragment.flush, typed, number, Formula.held]
    | line => simp [Piece.tokens, Fragment.classify, typed, number, Formula.held]

theorem piecesBehind_append {gs : List Glyph} (goesOn : ∀ g ∈ gs, ending? g = none)
    (rest : List Glyph) :
    piecesBehind front (gs ++ rest) = piecesBehind (front ++ ofGlyphs gs) rest := by
  induction gs generalizing front with
  | nil => rw [List.nil_append, show ofGlyphs [] = RawText.whole "" from rfl, append_empty]
  | cons g gs ih =>
    rw [List.forall_mem_cons] at goesOn
    have pushed : front.push g ++ ofGlyphs gs = front ++ ofGlyphs (g :: gs) := by
      rw [← glyphs_inj]
      simp [glyphs_ofGlyphs]
    rw [List.cons_append, piecesBehind, goesOn.1, ← pushed]
    exact ih goesOn.2

/-- Spaces go into the next piece and are trimmed with it. -/
theorem Holds.piecesBehind_spaces (holds : front.Holds held) {spaces : List Glyph}
    (blank : ∀ g ∈ spaces, g = .char ' ') (rest : List Glyph) :
    ∃ next : RawText, next.Holds held ∧
      piecesBehind front (spaces ++ rest) = piecesBehind next rest := by
  have goesOn : ∀ g ∈ spaces, ending? g = none := by
    intro g member
    rw [blank g member]
    rfl
  have trimmed : (ofGlyphs spaces).isBlank = true := by
    rw [isBlank_eq_all, glyphs_ofGlyphs, List.all_eq_true]
    intro g member
    rw [blank g member]
    exact Formula.isBlank_space
  exact ⟨_, holds.append_blank trimmed, piecesBehind_append goesOn rest⟩

theorem ending?_operator (op : Operator) :
    ending? (.char op.char) = some (.operator op) := by
  cases op <;> rfl

end RawText

/-! ## Typing the display -/

/-- Two tokens can be typed one after the other. -/
def Token.Apart (t t' : Token) : Prop := ¬ (t.isNumber = true ∧ t'.isNumber = true)

/-- Whether two tokens are apart can be tested. -/
instance : DecidableRel Token.Apart := fun _ _ => inferInstanceAs (Decidable (¬ _))

/-- The tokens that are typed behind a piece are those on display. -/
theorem Formula.tokens_joined {f : Formula} (typable : ∀ t ∈ f, t.IsTypable) {front : RawText}
    {held : Option Nat} (holds : front.Holds held) {row : Formula}
    (formula : row = Formula.held held ++ f) (apart : row.IsChain Token.Apart) :
    (RawText.piecesBehind front (joined gap f)).flatMap (Piece.tokens []) = row := by
  induction f generalizing front held row with
  | nil => simp [joined, RawText.piecesBehind, holds.tokens, formula]
  | cons t rest ih =>
    obtain ⟨typed, remaining⟩ := List.forall_mem_cons.mp typable
    obtain ⟨spaces, blank, label⟩ := exists_joined_cons t rest
    rw [label]
    cases t with
    | operator op =>
      have later : rest.IsChain Token.Apart := by
        rw [formula, ← List.singleton_append, ← List.append_assoc] at apart
        exact apart.right_of_append
      obtain ⟨next, empty, pieces⟩ :=
        RawText.holds_empty.piecesBehind_spaces blank (joined gap rest)
      have others := ih remaining empty rfl later
      rw [Token.glyphs_operator, List.singleton_append, RawText.piecesBehind,
        RawText.ending?_operator]
      simp only [pieces, others, List.flatMap_cons, holds.tokens, formula, List.append_assoc,
        List.singleton_append]
      rfl
    | number value =>
      cases value with
      | float x => exact typed.elim
      | int n =>
        obtain ⟨k, rfl⟩ := Int.eq_ofNat_of_zero_le typed.1
        have short : k < 10 ^ Fragment.wholeDigits := Int.ofNat_lt.mp typed.2
        cases held with
        | some m =>
          have touching := apart
          rw [formula] at touching
          exact absurd ⟨rfl, rfl⟩ (List.isChain_cons_cons.mp touching).1
        | none =>
          have goesOn := fun g => Token.ending?_natural (n := k) (g := g)
          obtain ⟨next, number, pieces⟩ :=
            (holds.append_natural short).piecesBehind_spaces blank (joined gap rest)
          rw [RawText.piecesBehind_append goesOn, RawText.ofGlyphs_glyphs, pieces]
          exact ih remaining number formula apart
    | _ => exact typed.elim

/-- Typing the display of a formula into a new session without suggestions restores the formula, and
so its result. -/
theorem Editor.retyping_restores {f : Formula} (bindings : Bindings)
    (typable : ∀ t ∈ f, t.IsTypable) (apart : f.IsChain Token.Apart) :
    ∃ e, (Editor.mk { bindings } (.catalogue [])).typeText f.expression = (e, .ok ()) ∧
      e.session.formula = f ∧ e.session.verdict = f.evaluate bindings := by
  have new := (Session.upToDate_new [] [] bindings).within rfl
  obtain ⟨next, typed, formula, -, kept⟩ := typeText_within new f.expression
  have words : ∀ t ∈ f, t.IsWord := fun t member => (typable t member).isWord
  have restored : next.formula = f := by
    rw [formula, RawText.tokens, RawText.pieces, Formula.glyphs_expression words]
    exact Formula.tokens_joined typable RawText.holds_empty rfl apart
  refine ⟨_, typed, restored, ?_⟩
  rw [Session.verdict, restored, kept]

theorem Editor.retyping_restores_ungrammatical :
    let f : Formula := [.operator .minus, .operator .openParen, .number (.int 12),
      .operator .closeParen, .operator .closeParen, .number (.int 3)]
    f.expression = "- (12)) 3" ∧
      ∃ e, (Editor.mk {} (.catalogue [])).typeText f.expression = (e, .ok ()) ∧
        e.session.formula = f ∧ e.session.verdict = f.evaluate [] :=
  ⟨by decide, Editor.retyping_restores [] (by decide) (by decide)⟩

end FormulaEditor
