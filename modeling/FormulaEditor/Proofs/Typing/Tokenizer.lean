import FormulaEditor.Proofs.Session.Accounting
import FormulaEditor.Proofs.Session.Confluence
import FormulaEditor.Proofs.Suggestion.Search
import FormulaEditor.Proofs.Typing.Piece
import FormulaEditor.Session.Typing

/-! # Typing is tokenizing

While a text is typed over a catalogue, the session always shows the list of its fragment, so
nothing that was found for a shorter fragment can be committed.  Each key therefore commits what
the piece in front of it gives, and a blank piece that a line end leaves in the fragment is trimmed
with the next one.
-/

namespace FormulaEditor

/-! ## Lookups in a catalogue -/

/-- What a catalogue has for a text. -/
def offered (entries : List Suggestion) : RawText → List Suggestion
  | .whole query => Suggestion.search entries query
  | .torn .. => []

theorem Provider.lookup_catalogue (entries : List Suggestion) (text : RawText) :
    (Provider.catalogue entries).lookup text =
      (.ok (offered entries text), .catalogue entries) := by
  cases text <;> rfl

theorem head?_offered {text : RawText} (typed : ¬ text.isBlank = true)
    (entries : List Suggestion) :
    (offered entries text).head? = entries.find? (Piece.isNamedIn text) := by
  rw [RawText.isBlank_iff] at typed
  cases text with
  | whole query =>
    have kept : Text.strip query ≠ "" := by simpa [RawText.strip] using typed
    rw [offered, Suggestion.search_of_not_blank kept, List.head?_filter]
    rfl
  | torn before half after =>
    have unnamed : ∀ s ∈ entries, ¬ Piece.isNamedIn (.torn before half after) s = true :=
      fun _ _ => Bool.false_ne_true
    exact (List.find?_eq_none.mpr unnamed).symm

/-! ## Sessions between two glyphs -/

namespace Session

/-- The session shows what the catalogue has for its fragment, and nothing for a blank one. -/
structure UpToDate (entries : List Suggestion) (s : Session) : Prop where
  suggestions : s.suggestions = if s.pending.isBlank then [] else offered entries s.pending
  isOpen : s.suggestionsOpen = !s.pending.isBlank
  highlighted : s.highlighted = 0

variable {entries : List Suggestion} {s : Session}

theorem upToDate_new (entries : List Suggestion) (formula : Formula) (bindings : Bindings) :
    UpToDate entries { formula, bindings } :=
  ⟨rfl, rfl, rfl⟩

theorem upToDate_answered (s : Session) (text : RawText) :
    (s.answered text (offered entries text)).UpToDate entries :=
  ⟨rfl, rfl, rfl⟩

theorem upToDate_commit (s : Session) (added : List Token) : (s.commit added).UpToDate entries :=
  ⟨rfl, rfl, rfl⟩

/-- The first suggestion of the list would be picked. -/
theorem UpToDate.chosen? (upToDate : s.UpToDate entries) (typed : ¬ s.pending.isBlank = true) :
    s.inputState.chosen? = entries.find? (Piece.isNamedIn s.pending) := by
  have list : s.suggestions = offered entries s.pending := by
    rw [upToDate.suggestions, if_neg typed]
  have isOpen : s.inputState.suggestionsOpen = true := by
    simpa [inputState, upToDate.isOpen] using typed
  have first : s.inputState.clamped.toNat = 0 := by
    simp only [InputState.clamped, inputState, upToDate.highlighted]
    omega
  rw [InputState.chosen?, if_pos isOpen, first, ← List.head?_eq_getElem?,
    ← head?_offered typed, ← list, inputState]

/-- The enter key commits the fragment as a piece at the end of a line; a blank one stays. -/
theorem UpToDate.press_enter (upToDate : s.UpToDate entries) :
    (s.press .enter).1.formula = s.formula ++ Piece.tokens entries ⟨s.pending, .line⟩ ∧
      (s.press .enter).1.UpToDate entries ∧ (s.press .enter).1.pending.isBlank = true ∧
      (s.press .enter).1.bindings = s.bindings := by
  by_cases blank : s.pending.isBlank = true
  · have closed : s.suggestionsOpen = false := by simp [upToDate.isOpen, blank]
    rw [press_enter_blank (chosen?_eq_none_of_closed closed) blank,
      Piece.tokens_line_of_blank entries blank, List.append_nil]
    exact ⟨rfl, upToDate, blank, rfl⟩
  · have chosen := upToDate.chosen? blank
    rw [Piece.tokens, if_neg blank]
    cases named : entries.find? (Piece.isNamedIn s.pending) with
    | some suggestion =>
      rw [press_enter_chosen (chosen.trans named)]
      exact ⟨rfl, upToDate_commit s _, rfl, rfl⟩
    | none =>
      rw [press_enter_typed (chosen.trans named) blank]
      exact ⟨rfl, upToDate_commit s _, rfl, rfl⟩

/-- The session has come to a place in a text where `front` is the piece so far.  Blanks that line
ends have left are still in front of it. -/
structure Within (entries : List Suggestion) (front : RawText) (s : Session) : Prop
    extends UpToDate entries s where
  pending : ∃ blanks : RawText, blanks.isBlank = true ∧ s.pending = blanks ++ front

variable {front : RawText}

theorem UpToDate.within (upToDate : s.UpToDate entries) (blank : s.pending.isBlank = true) :
    s.Within entries "" where
  toUpToDate := upToDate
  pending := ⟨s.pending, blank, (RawText.append_empty s.pending).symm⟩

theorem Within.tokens (within : s.Within entries front) (ending : Piece.Ending) :
    Piece.tokens entries ⟨s.pending, ending⟩ = Piece.tokens entries ⟨front, ending⟩ := by
  obtain ⟨blanks, blank, pending⟩ := within.pending
  rw [pending]
  exact Piece.tokens_congr entries (RawText.strip_append_left blank) ending

end Session

/-! ## Typing glyphs -/

/-- The key for what ends a piece. -/
def Piece.Ending.key : Piece.Ending → Key
  | .operator op => .operator op
  | .line => .enter

namespace Editor

variable {entries : List Suggestion} {s : Session} {front : RawText} {g : Glyph}

theorem setInput_catalogue (s : Session) (entries : List Suggestion) (text : RawText) :
    (Editor.mk s (.catalogue entries)).setInput text =
      (⟨s.answered text (offered entries text), .catalogue entries⟩, .ok (!text.isBlank)) := by
  by_cases blank : text.isBlank = true
  · have begun : s.begin text = (s.answered text (offered entries text), none) :=
      Prod.ext (s.begin_of_blank _ blank) (s.begin_request?_of_blank blank)
    rw [setInput, begun, blank]
    rfl
  · have begun : s.begin text = ((s.begin text).1, some ⟨text, s.number + 1⟩) :=
      Prod.ext rfl (s.begin_request?_of_not_blank blank)
    have answered := s.arrive_begin (offered entries text) blank
    have taken := (Session.arrive_of_awaits (offered entries text) (s.awaits_begin text)).1
    rw [setInput, begun]
    simp only [Provider.lookup_catalogue, answered, taken]
    simp [blank]

/-- Operators and line ends are keys, and no other glyph is. -/
theorem keyOf?_eq (g : Glyph) : keyOf? g = (RawText.ending? g).map Piece.Ending.key := by
  cases g with
  | half h => rfl
  | char c =>
    rw [keyOf?, RawText.ending?]
    split
    · next op found =>
      have other : c ≠ '\n' := by
        rintro rfl
        cases found
      rw [if_neg other, found]
      rfl
    · next missed =>
      split
      · rfl
      · rw [missed]
        rfl

/-- A glyph that ends no piece goes into the fragment. -/
theorem typeGlyph_within (within : s.Within entries front) (goesOn : RawText.ending? g = none) :
    ∃ next, (Editor.mk s (.catalogue entries)).typeGlyph g =
        (⟨next, .catalogue entries⟩, .ok ()) ∧
      next.Within entries (front.push g) ∧ next.formula = s.formula ∧
      next.bindings = s.bindings := by
  have key : keyOf? g = none := by rw [keyOf?_eq, goesOn, Option.map_none]
  obtain ⟨blanks, blank, pending⟩ := within.pending
  have pushed : s.pending.push g = blanks ++ front.push g := by
    rw [pending, RawText.append_push]
  refine ⟨s.answered (s.pending.push g) (offered entries (s.pending.push g)), ?_, ?_, rfl, rfl⟩
  · rw [typeGlyph, key, extend, setInput_catalogue]
    rfl
  · exact ⟨s.upToDate_answered _, blanks, blank, pushed⟩

/-- A glyph that ends a piece commits its tokens. -/
theorem typeGlyph_ending (within : s.Within entries front) {ending : Piece.Ending}
    (ends : RawText.ending? g = some ending) :
    ∃ next, (Editor.mk s (.catalogue entries)).typeGlyph g =
        (⟨next, .catalogue entries⟩, .ok ()) ∧
      next.Within entries "" ∧
      next.formula = s.formula ++ Piece.tokens entries ⟨front, ending⟩ ∧
      next.bindings = s.bindings := by
  have key : keyOf? g = some ending.key := by rw [keyOf?_eq, ends, Option.map_some]
  refine ⟨(s.press ending.key).1, by rw [typeGlyph, key]; rfl, ?_⟩
  rw [← within.tokens ending]
  cases ending with
  | operator op =>
    have committed := s.press_operator op
    rw [Piece.Ending.key, committed]
    exact ⟨(s.upToDate_commit _).within rfl, rfl, rfl⟩
  | line =>
    obtain ⟨formula, upToDate, blank, bindings⟩ := within.press_enter
    exact ⟨upToDate.within blank, formula, bindings⟩

/-- Glyphs commit the tokens of all pieces but the last, which is in the fragment at the end. -/
theorem typeGlyphs_within (within : s.Within entries front) (gs : List Glyph) :
    ∃ next last, (Editor.mk s (.catalogue entries)).typeGlyphs gs =
        (⟨next, .catalogue entries⟩, .ok ()) ∧
      next.Within entries last ∧ next.bindings = s.bindings ∧
      next.formula ++ Piece.tokens entries ⟨last, .line⟩ =
        s.formula ++ (RawText.piecesBehind front gs).flatMap (Piece.tokens entries) := by
  induction gs generalizing s front with
  | nil => exact ⟨s, front, rfl, within, rfl, by simp [RawText.piecesBehind]⟩
  | cons g rest ih =>
    rw [typeGlyphs, RawText.piecesBehind]
    cases ends : RawText.ending? g with
    | none =>
      obtain ⟨next, typed, goesOn, formula, bindings⟩ := typeGlyph_within within ends
      rw [typed, ← formula, ← bindings]
      exact ih goesOn
    | some ending =>
      obtain ⟨next, typed, fresh, formula, bindings⟩ := typeGlyph_ending within ends
      rw [typed, ← bindings, List.flatMap_cons, ← List.append_assoc, ← formula]
      exact ih fresh

/-- Whatever the session has come to by typing, a text adds the tokens of its pieces. -/
theorem typeText_within (within : s.Within entries "") (text : RawText) :
    ∃ next, (Editor.mk s (.catalogue entries)).typeText text =
        (⟨next, .catalogue entries⟩, .ok ()) ∧
      next.formula = s.formula ++ text.tokens entries ∧ next.pending.isBlank = true ∧
      next.bindings = s.bindings := by
  obtain ⟨next, last, typed, goesOn, bindings, tokens⟩ := typeGlyphs_within within text.glyphs
  rw [← goesOn.tokens] at tokens
  rw [RawText.tokens, RawText.pieces, ← tokens, typeText, typed]
  by_cases blank : next.pending.isBlank = true
  · refine ⟨next, by simp [blank], ?_, blank, bindings⟩
    rw [Piece.tokens_line_of_blank entries blank, List.append_nil]
  · obtain ⟨formula, -, empty, kept⟩ := goesOn.press_enter
    exact ⟨(next.press .enter).1, by simp [blank, press], formula, empty, kept.trans bindings⟩

/-- Typing a text into a new session over a catalogue puts the tokens of its pieces in a row, and
leaves nothing but blanks in the fragment. -/
theorem typing_tokenizes (entries : List Suggestion) (bindings : Bindings) (text : RawText) :
    ∃ e, (Editor.mk { bindings } (.catalogue entries)).typeText text = (e, .ok ()) ∧
      e.session.formula = text.pieces.flatMap (Piece.tokens entries) ∧
      e.session.pending.isBlank = true := by
  have new := (Session.upToDate_new entries [] bindings).within rfl
  obtain ⟨next, typed, formula, blank, -⟩ := typeText_within new text
  exact ⟨_, typed, formula, blank⟩

end Editor

end FormulaEditor
