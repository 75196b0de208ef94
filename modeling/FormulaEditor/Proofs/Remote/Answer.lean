import FormulaEditor.Proofs.Validation.Records
import FormulaEditor.Remote.Lookup

/-! # What an answer holds

Which values give a list of entries, and how the entries of a list divide into suggestions and
others, is described by the form of the values; a lookup finds the same.
-/

namespace FormulaEditor.Remote

/-! ## The list -/

/-- The value gives a list: it is one, or it is an object with a list as its result or, if it has no
result, as its items. -/
inductive GivesList : Json → List Json → Prop where
  | bare (entries : List Json) : GivesList (.arr entries) entries
  | result {members : List (RawText × Json)} {entries : List Json}
      (result : Json.member? members "result" = some (.arr entries)) :
      GivesList (.obj members) entries
  | items {members : List (RawText × Json)} {entries : List Json}
      (noResult : Json.member? members "result" = none)
      (items : Json.member? members "items" = some (.arr entries)) :
      GivesList (.obj members) entries

theorem listOf?_eq_some_iff {v : Json} {entries : List Json} :
    listOf? v = some entries ↔ GivesList v entries := by
  constructor
  · intro found
    cases v with
    | arr given =>
      cases found
      exact .bare entries
    | obj members =>
      simp only [listOf?] at found
      cases result : Json.member? members "result" with
      | some inner =>
        rw [result] at found
        cases inner with
        | arr given =>
          cases found
          exact .result result
        | _ => cases found
      | none =>
        rw [result] at found
        cases items : Json.member? members "items" with
        | some inner =>
          rw [items] at found
          cases inner with
          | arr given =>
            cases found
            exact .items result items
          | _ => cases found
        | none =>
          rw [items] at found
          cases found
    | _ => cases found
  · intro gives
    cases gives with
    | bare => rfl
    | result result => simp only [listOf?, result]
    | items noResult items => simp only [listOf?, noResult, items]

/-! ## The entries -/

/-- The suggestions that the entries of a list describe, in the order of the entries, and the number
of the entries that describe none. -/
inductive Sifts : List Json → List Suggestion → Nat → Prop where
  | nil : Sifts [] [] 0
  | kept {entry : Json} {s : Suggestion} {entries : List Json} {found : List Suggestion}
      {skipped : Nat} (described : s.DescribedBy entry) (others : Sifts entries found skipped) :
      Sifts (entry :: entries) (s :: found) skipped
  | skipped {entry : Json} {entries : List Json} {found : List Suggestion} {skipped : Nat}
      (undescribed : ∀ s : Suggestion, ¬ s.DescribedBy entry)
      (others : Sifts entries found skipped) : Sifts (entry :: entries) found (skipped + 1)

theorem not_describedBy_of_error {entry : Json} {issues : List Issue}
    (refused : Suggestion.ofJson entry = .error issues) (s : Suggestion) :
    ¬ s.DescribedBy entry := by
  intro described
  cases refused.symm.trans (Suggestion.ofJson_eq_ok_iff.mpr described)

/-- A lookup sifts the entries. -/
theorem sifts_validEntries (entries : List Json) :
    Sifts entries (validEntries entries) (skipWarnings entries).length := by
  induction entries with
  | nil => exact .nil
  | cons entry others ih =>
    rw [validEntries, skipWarnings, List.filterMap_cons, List.filterMap_cons]
    cases checked : Suggestion.ofJson entry with
    | ok s => exact .kept (Suggestion.ofJson_eq_ok_iff.mp checked) ih
    | error issues => exact .skipped (not_describedBy_of_error checked) ih

/-- Entries are sifted in one way only. -/
theorem Sifts.eq_validEntries {entries : List Json} {found : List Suggestion} {skipped : Nat}
    (sifts : Sifts entries found skipped) :
    validEntries entries = found ∧ skipWarnings entries = List.replicate skipped .skippedEntry := by
  induction sifts with
  | nil => exact ⟨rfl, rfl⟩
  | kept described _ ih =>
    rw [validEntries, skipWarnings, List.filterMap_cons, List.filterMap_cons,
      Suggestion.ofJson_eq_ok_iff.mpr described]
    exact ⟨congrArg _ ih.1, ih.2⟩
  | @skipped entry _ _ _ undescribed _ ih =>
    rw [validEntries, skipWarnings, List.filterMap_cons, List.filterMap_cons]
    cases checked : Suggestion.ofJson entry with
    | ok s => exact absurd (Suggestion.ofJson_eq_ok_iff.mp checked) (undescribed s)
    | error issues => exact ⟨ih.1, congrArg (.skippedEntry :: ·) ih.2⟩

end FormulaEditor.Remote
