import Mathlib.Data.List.Infix
import FormulaEditor.Suggestion

/-! # What a search finds

A text that is not blank finds the suggestions in whose names it is contained, in their order.
-/

namespace FormulaEditor

namespace Text

theorem lowerChar_ne_nil (before : List Char) (c : Char) (after : List Char) :
    lowerChar before c after ≠ [] := by
  rw [lowerChar]
  repeat' split
  all_goals simp

theorem lower_eq_empty_iff {s : String} : lower s = "" ↔ s = "" := by
  constructor
  · intro empty
    have none : lowerFrom [] s.toList = [] := by simpa [lower] using congrArg String.toList empty
    cases chars : s.toList with
    | nil => simpa using chars
    | cons c rest =>
      rw [chars, lowerFrom] at none
      exact absurd (List.append_eq_nil_iff.mp none).1 (lowerChar_ne_nil _ _ _)
  · rintro rfl
    rfl

end Text

namespace Suggestion

theorem occursIn_iff {needle s : List Char} : occursIn needle s = true ↔ needle <:+: s := by
  induction s with
  | nil => simp [occursIn]
  | cons c rest ih => simp [occursIn, ih, List.infix_cons_iff]

theorem matchesLower_eq (needle : String) (s : Suggestion) :
    matchesLower needle s = decide (needle.toList <:+: (Text.lower s.name).toList) := by
  rw [Bool.eq_iff_iff, matchesLower, occursIn_iff, decide_eq_true_iff]

theorem search_of_not_blank {query : String} (typed : Text.strip query ≠ "")
    (suggestions : List Suggestion) :
    search suggestions query = suggestions.filter fun s =>
      decide ((Text.lower (Text.strip query)).toList <:+: (Text.lower s.name).toList) := by
  have lowered : Text.lower (Text.strip query) ≠ "" := mt Text.lower_eq_empty_iff.mp typed
  rw [search, if_neg lowered]
  exact List.filter_congr fun s _ => matchesLower_eq _ s

/-- What is found is among what is searched. -/
theorem search_subset (suggestions : List Suggestion) (query : String) :
    search suggestions query ⊆ suggestions := by
  rw [search]
  split
  · exact List.nil_subset _
  · exact List.filter_sublist.subset

end Suggestion

end FormulaEditor
