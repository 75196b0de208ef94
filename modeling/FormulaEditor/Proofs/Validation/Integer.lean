import FormulaEditor.Proofs.Decimal.Numeral
import FormulaEditor.Validation.Coercion

/-! # Whole numbers that are given as texts

A whole number of at most 4300 digits is accepted for itself when it is given as the text that it is
written as.
-/

namespace FormulaEditor

theorem Text.plainDigit?_of_isDigit {c : Char} (digit : c.isDigit = true) :
    plainDigit? c = some (c.toNat - '0'.toNat) := by
  have plain : '0'.val ≤ c.val ∧ c.val ≤ '9'.val := by simpa [Char.isDigit] using digit
  change '0' ≤ c ∧ c ≤ '9' at plain
  rw [plainDigit?, if_pos plain]
  rfl

/-- A number is written with a zero in front only if it is zero. -/
theorem head_toDigits_eq_zero {n : Nat} {digits : List Char}
    (written : Nat.toDigits 10 n = '0' :: digits) : digits = [] := by
  induction n using Nat.strongRecOn generalizing digits with
  | ind n ih =>
    by_cases single : n < 10
    · rw [Nat.toDigits_of_lt_base single] at written
      exact (List.cons.inj written).2.symm
    · rw [Nat.toDigits_of_base_le (by decide) (Nat.not_lt.mp single)] at written
      obtain ⟨front, fronts, split⟩ : ∃ c cs, Nat.toDigits 10 (n / 10) = c :: cs :=
        List.exists_cons_of_ne_nil Nat.toDigits_ne_nil
      rw [split, List.cons_append] at written
      obtain ⟨rfl, -⟩ := List.cons.inj written
      -- The digits in front are a zero alone, which only zero is written as.
      have none := ih (n / 10) (by omega) split
      rw [none] at split
      have zero := congrArg (Nat.ofDigitChars 10 · 0) split
      simp only [Nat.ofDigitChars_ten_toDigits] at zero
      have quotient : n / 10 = 0 := zero
      omega

namespace Coercion

/-- The digits of a natural are read as the natural, with the sign that stands before them. -/
theorem exactInt?_toDigits {n : Nat} {s : List Char} (negative : Bool)
    (short : (Nat.toDigits 10 n).length ≤ integerDigitLimit)
    (signed : s = (if negative then ['-'] else []) ++ Nat.toDigits 10 n) :
    exactInt? s = some (.ok (Numeral.withSign negative n)) := by
  obtain ⟨c, cs, written⟩ : ∃ c cs, Nat.toDigits 10 n = c :: cs :=
    List.exists_cons_of_ne_nil Nat.toDigits_ne_nil
  have digit : ∀ d ∈ c :: cs, d.isDigit = true := fun d member =>
    Text.isDigit_of_mem_toDigits (written ▸ member)
  have value : ∀ d ∈ c :: cs, Text.plainDigit? d = some (d.toNat - '0'.toNat) := fun d member =>
    Text.plainDigit?_of_isDigit (digit d member)
  have ends : ∀ d ∈ ([] : List Char).head?, Text.plainDigit? d = none := nofun
  have taken := Numeral.takeDigits_append value ends
  rw [List.append_nil, List.map_cons] at taken
  have unpadded : ¬ (c.toNat - '0'.toNat = 0 ∧ cs.map (fun d => d.toNat - '0'.toNat) ≠ []) := by
    rintro ⟨zero, more⟩
    have bounds := Text.toNat_of_isDigit (digit c List.mem_cons_self)
    change c.toNat - 0x30 = 0 at zero
    have same : c.toNat = 0x30 := by omega
    obtain rfl : c = '0' := Char.toNat_inj.mp same
    exact more (by rw [head_toDigits_eq_zero written]; rfl)
  have fits : ¬ integerDigitLimit < (cs.map fun d => d.toNat - '0'.toNat).length + 1 := by
    rw [written, List.length_cons] at short
    simpa using short
  have denoted := Numeral.ofDigits_toDigits n
  rw [written, List.map_cons] at denoted
  rw [written] at signed
  have unsigned : c ≠ '-' := by
    rintro rfl
    exact absurd (digit '-' List.mem_cons_self) (by decide)
  subst signed
  unfold exactInt?
  split
  next negative' unsigned' sign =>
    obtain ⟨rfl, rfl⟩ : negative' = negative ∧ unsigned' = c :: cs := by
      cases negative with
      | true =>
        cases sign
        exact ⟨rfl, rfl⟩
      | false =>
        split at sign
        · next same => exact absurd (List.cons.inj same).1 unsigned
        · cases sign
          exact ⟨rfl, rfl⟩
    simp only [taken, if_neg unpadded, if_neg fits, denoted]

/-- A whole number that is not too long is accepted as it is written. -/
theorem int_toString {i : Int} (short : (Nat.toDigits 10 i.natAbs).length ≤ integerDigitLimit) :
    int (.str (toString i)) = .ok i := by
  have exact : exactInt? (toString i).toList = some (.ok i) := by
    cases i with
    | ofNat n => exact exactInt?_toDigits false short (Number.toList_text_natural n)
    | negSucc n => exact exactInt?_toDigits true short (Number.toList_text_negSucc n)
  have whole : intOf (.str (toString i)) = .ok i := by
    change intOfText (toString i) = .ok i
    rw [intOfText, exact]
  rw [int, plain, whole]
  rfl

end Coercion

end FormulaEditor
