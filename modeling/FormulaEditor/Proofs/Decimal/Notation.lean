import FormulaEditor.Json.Read
import FormulaEditor.Proofs.Decimal.Numeral

/-! # What written numbers are made of

Every finite number is written in characters that can be in a numeral.
-/

namespace FormulaEditor

/-- Every character can be in a numeral. -/
def AreNumeral (cs : List Char) : Prop := ∀ c ∈ cs, Json.isNumeralChar c = true

namespace AreNumeral

variable {cs digits : List Char}

theorem nil : AreNumeral [] := nofun

theorem append {ds : List Char} (front : AreNumeral cs) (back : AreNumeral ds) :
    AreNumeral (cs ++ ds) :=
  List.forall_mem_append.mpr ⟨front, back⟩

theorem cons {c : Char} (first : Json.isNumeralChar c = true) (others : AreNumeral cs) :
    AreNumeral (c :: cs) :=
  List.forall_mem_cons.mpr ⟨first, others⟩

theorem subset {ds : List Char} (all : AreNumeral cs) (within : ds ⊆ cs) : AreNumeral ds :=
  fun c member => all c (within member)

theorem replicate (n : Nat) : AreNumeral (List.replicate n '0') := by
  intro c member
  rw [List.eq_of_mem_replicate member]
  decide

theorem toDigits (n : Nat) : AreNumeral (Nat.toDigits 10 n) := by
  intro c member
  have digit := Text.isDigit_of_mem_toDigits member
  have plain : '0'.val ≤ c.val ∧ c.val ≤ '9'.val := by simpa [Char.isDigit] using digit
  change '0' ≤ c ∧ c ≤ '9' at plain
  simp [Json.isNumeralChar, Text.plainDigit?, plain]

theorem significantDigits (n : Nat) : AreNumeral (Decimal.significantDigits n) := by
  refine (toDigits n).subset fun c member => ?_
  have dropped := List.dropWhile_subset _ (List.mem_reverse.mp member)
  exact List.mem_reverse.mp dropped

theorem exponentText (e : Int) : AreNumeral (Decimal.exponentText e) := by
  rw [Decimal.exponentText]
  refine cons ?_ ?_
  · split <;> decide
  · split
    · exact cons (by decide) (toDigits _)
    · exact toDigits _

theorem positional (pointZero : Bool) (all : AreNumeral digits) (e : Int) :
    AreNumeral (Decimal.positional pointZero digits e) := by
  rw [Decimal.positional]
  split
  · exact cons (by decide) (cons (by decide) ((replicate _).append all))
  · simp only
    split
    · refine (all.append (replicate _)).append ?_
      cases pointZero
      · exact nil
      · exact cons (by decide) (cons (by decide) nil)
    · exact (all.subset (List.take_subset _ _)).append
        (cons (by decide) (all.subset (List.drop_subset _ _)))

theorem scientific (all : AreNumeral digits) (e : Int) :
    AreNumeral (Decimal.scientific digits e) := by
  refine append ?_ (cons (by decide) (exponentText e))
  split
  · exact nil
  · exact all
  · next d rest =>
    obtain ⟨first, others⟩ := List.forall_mem_cons.mp all
    exact cons first (cons (by decide) others)

theorem render (style : Decimal.Notation) (d : Decimal) : AreNumeral (Decimal.render style d) := by
  simp only [Decimal.render]
  split
  · exact positional _ (significantDigits _) _
  · exact scientific (significantDigits _) _

end AreNumeral

theorem Binary64.areNumeral_text {x : Binary64} (finite : x.isFinite = true) :
    AreNumeral x.text.toList := by
  cases x with
  | nan => cases finite
  | infinity negative => cases finite
  | finite negative mantissa exponent =>
    simp only [text, textWith, String.toList_ofList]
    have unsigned : AreNumeral (if mantissa = 0 then
        Decimal.positional fullNotation.pointZero ['0'] 0
        else Decimal.render fullNotation (shortest mantissa exponent)) := by
      split
      · exact .positional _ (.cons (by decide) .nil) _
      · exact .render _ _
    split
    · exact .cons (by decide) unsigned
    · exact unsigned

theorem Number.areNumeral_text {n : Number} (finite : n.isFinite = true) :
    AreNumeral n.text.toList := by
  cases n with
  | float x => exact Binary64.areNumeral_text finite
  | int n =>
    cases n with
    | ofNat n => exact toList_text_natural n ▸ .toDigits n
    | negSucc n => exact toList_text_negSucc n ▸ .cons (by decide) (.toDigits (n + 1))

end FormulaEditor
