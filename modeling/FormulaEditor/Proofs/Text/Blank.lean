import Mathlib.Data.List.TakeWhile
import FormulaEditor.Text.RawText

/-! # Blank texts

A text is blank just if trimming leaves nothing of it.
-/

namespace FormulaEditor

namespace Text

theorem trimBy_eq_nil_iff {drop : Char → Bool} {s : List Char} :
    trimBy drop s = [] ↔ ∀ c ∈ s, drop c = true := by
  rw [trimBy, List.reverse_eq_nil_iff, List.dropWhile_eq_nil_iff]
  constructor
  · intro dropped
    by_contra kept
    rw [← List.dropWhile_eq_nil_iff] at kept
    -- What dropping in front stops at would be dropped from behind.
    have stopped := List.head_dropWhile_not drop kept
    rw [dropped _ (List.mem_reverse.mpr (List.head_mem kept))] at stopped
    cases stopped
  · intro all c member
    exact all c ((List.dropWhile_sublist drop).subset (List.mem_reverse.mp member))

theorem trimBy_of_forall {drop : Char → Bool} {s : List Char} (kept : ∀ c ∈ s, drop c = false) :
    trimBy drop s = s := by
  have stays {l : List Char} (kept : ∀ c ∈ l, drop c = false) : l.dropWhile drop = l := by
    cases l with
    | nil => rfl
    | cons c l => simp [kept c List.mem_cons_self]
  rw [trimBy, stays kept, stays (by simpa using kept), List.reverse_reverse]

theorem isBlankText_iff {s : String} : isBlankText s = true ↔ strip s = "" := by
  rw [isBlankText, List.all_eq_true, ← trimBy_eq_nil_iff, strip]
  simp

end Text

theorem RawText.isBlank_iff {s : RawText} : s.isBlank = true ↔ s.strip = "" := by
  cases s with
  | whole s => rw [isBlank, strip, Text.isBlankText_iff, whole.injEq]
  | torn before half after => simp [isBlank, strip]

end FormulaEditor
