import Mathlib.Data.List.DropRight
import FormulaEditor.Text.RawText

/-! # Raw texts as rows of glyphs

A raw text is known by its glyphs.  Seen so, texts are put together by appending, are blank when
all their glyphs are, and are trimmed at both ends.
-/

namespace FormulaEditor.RawText

variable {s t front back : RawText}

theorem glyphs_ofGlyphs (gs : List Glyph) : (ofGlyphs gs).glyphs = gs := by
  suffices behind : ∀ front, (ofGlyphsBehind front gs).glyphs = front.reverse.map .char ++ gs by
    simpa [ofGlyphs] using behind []
  induction gs with
  | nil => simp [ofGlyphsBehind, glyphs]
  | cons g rest ih =>
    intro front
    cases g with
    | char c => simp [ofGlyphsBehind, ih]
    | half h => simp [ofGlyphsBehind, glyphs]

theorem glyphs_inj : s.glyphs = t.glyphs ↔ s = t := by
  constructor
  · intro same
    rw [← ofGlyphs_glyphs s, same, ofGlyphs_glyphs]
  · exact congrArg glyphs

@[simp] theorem glyphs_append (s t : RawText) : (s ++ t).glyphs = s.glyphs ++ t.glyphs := by
  change (s.append t).glyphs = _
  cases s <;> cases t <;> simp [append, glyphs]

@[simp] theorem glyphs_push (s : RawText) (g : Glyph) : (s.push g).glyphs = s.glyphs ++ [g] := by
  rw [push, glyphs_append, glyphs_ofGlyphs]

@[simp] theorem glyphs_empty : (RawText.whole "").glyphs = [] := rfl

theorem append_assoc (s t u : RawText) : s ++ t ++ u = s ++ (t ++ u) := by
  rw [← glyphs_inj]
  simp

theorem append_empty (s : RawText) : s ++ RawText.whole "" = s := by
  rw [← glyphs_inj]
  simp

theorem append_push (s t : RawText) (g : Glyph) : (s ++ t).push g = s ++ t.push g :=
  append_assoc s t _

/-! ## Blanks -/

theorem isBlank_eq_all (s : RawText) : s.isBlank = s.glyphs.all Glyph.isBlank := by
  cases s with
  | whole s =>
    rw [isBlank, Text.isBlankText, glyphs, List.all_map]
    rfl
  | torn before half after => simp [isBlank, glyphs, Glyph.isBlank]

theorem isBlank_append : (s ++ t).isBlank = (s.isBlank && t.isBlank) := by
  simp [isBlank_eq_all]

/-- Dropping in front ends at the latest where something is kept. -/
theorem dropWhile_append_cons {α : Type} {drop : α → Bool} {kept : α} (stops : drop kept = false)
    (l rest : List α) : (l ++ kept :: rest).dropWhile drop = l.dropWhile drop ++ kept :: rest := by
  induction l with
  | nil => simp [stops]
  | cons a l ih =>
    by_cases dropped : drop a = true
    · simp [dropped, ih]
    · simp [dropped]

theorem glyphs_strip (s : RawText) :
    s.strip.glyphs = (s.glyphs.dropWhile Glyph.isBlank).rdropWhile Glyph.isBlank := by
  have blank : Glyph.isBlank ∘ Glyph.char = Text.isBlank := rfl
  cases s with
  | whole s =>
    simp [strip, Text.strip, Text.trimBy, glyphs, List.rdropWhile, List.dropWhile_map, blank,
      ← List.map_reverse]
  | torn before half after =>
    -- Neither end is trimmed beyond the half.
    have stops : Glyph.isBlank (.half half) = false := rfl
    have inFront := dropWhile_append_cons stops (before.map .char) after
    have behind := dropWhile_append_cons stops after.reverse
      ((before.dropWhile Text.isBlank).map Glyph.char).reverse
    rw [strip, glyphs, glyphs, inFront, List.dropWhile_map, blank, List.rdropWhile]
    simp [behind]

theorem strip_append_left (blank : front.isBlank = true) : (front ++ s).strip = s.strip := by
  rw [isBlank_eq_all, List.all_eq_true] at blank
  rw [← glyphs_inj, glyphs_strip, glyphs_strip, glyphs_append,
    List.dropWhile_append_of_pos blank]

theorem strip_append_right (blank : back.isBlank = true) : (s ++ back).strip = s.strip := by
  rw [isBlank_eq_all, List.all_eq_true] at blank
  have none : back.glyphs.dropWhile Glyph.isBlank = [] := List.dropWhile_eq_nil_iff.mpr blank
  have reversed : ∀ g ∈ back.glyphs.reverse, g.isBlank = true := by simpa using blank
  rw [← glyphs_inj, glyphs_strip, glyphs_strip, glyphs_append, List.dropWhile_append]
  split
  · next all => rw [List.isEmpty_iff.mp all, none]
  · rw [List.rdropWhile, List.rdropWhile, List.reverse_append,
      List.dropWhile_append_of_pos reversed]

/-- A text without blanks is not trimmed. -/
theorem strip_of_solid (solid : ∀ g ∈ s.glyphs, g.isBlank = false) : s.strip = s := by
  have first : s.glyphs.dropWhile Glyph.isBlank = s.glyphs := by
    rw [List.dropWhile_eq_self_iff]
    intro nonempty
    simp [solid]
  have last : s.glyphs.rdropWhile Glyph.isBlank = s.glyphs := by
    rw [List.rdropWhile_eq_self_iff]
    intro nonempty
    simp [solid _ (List.getLast_mem nonempty)]
  rw [← glyphs_inj, glyphs_strip, first, last]

/-- A text that has been trimmed stays as it is. -/
theorem strip_strip (s : RawText) : s.strip.strip = s.strip := by
  have first : s.strip.glyphs.dropWhile Glyph.isBlank = s.strip.glyphs := by
    rw [List.dropWhile_eq_self_iff]
    intro nonempty blank
    -- The glyph in front is the one that trimming stopped at.
    have kept := List.rdropWhile_prefix Glyph.isBlank (s.glyphs.dropWhile Glyph.isBlank)
    rw [← glyphs_strip] at kept
    rw [kept.getElem] at blank
    have inside := nonempty.trans_le kept.length_le
    exact List.dropWhile_get_zero_not Glyph.isBlank s.glyphs inside blank
  rw [← glyphs_inj, glyphs_strip s.strip, first, glyphs_strip, List.rdropWhile_idempotent]

end FormulaEditor.RawText
