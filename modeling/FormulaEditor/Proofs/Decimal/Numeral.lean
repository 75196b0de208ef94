import Mathlib.Algebra.Group.Nat.Defs
import FormulaEditor.Fragment

/-! # Numerals of plain digits

A natural number is written in the ten plain digits.  What is written so is a numeral, denotes the
number, and is typed for it as long as whole numbers are not rounded.
-/

namespace FormulaEditor

/-! ## Digits -/

namespace Text

variable {c : Char}

theorem toNat_of_isDigit (digit : c.isDigit = true) : 0x30 ≤ c.toNat ∧ c.toNat < 0x30 + 10 := by
  have within : '0'.val ≤ c.val ∧ c.val ≤ '9'.val := by simpa [Char.isDigit] using digit
  rw [UInt32.le_iff_toNat_le, UInt32.le_iff_toNat_le] at within
  change '0'.toNat ≤ c.toNat ∧ c.toNat ≤ '9'.toNat at within
  simpa [Nat.lt_succ_iff] using within

theorem digit?_of_isDigit (digit : c.isDigit = true) : digit? c = some (c.toNat - '0'.toNat) := by
  have bounds := toNat_of_isDigit digit
  rw [digit?, digitZeros, List.find?_cons_of_pos (by simpa using bounds)]
  rfl

theorem isDigit_of_mem_toDigits {n : Nat} (member : c ∈ Nat.toDigits 10 n) : c.isDigit = true :=
  Nat.isDigit_of_mem_toDigits (by decide) (by decide) member

/-- Digits belong to the labels of numbers alone. -/
theorem isOrdinary_of_isDigit (digit : c.isDigit = true) :
    isBlank c = false ∧ Operator.ofChar? c = none := by
  have all : ∀ n < 0x3A, 0x30 ≤ n →
      isBlank (Char.ofNat n) = false ∧ Operator.ofChar? (Char.ofNat n) = none := by decide
  have bounds := toNat_of_isDigit digit
  have ordinary := all c.toNat bounds.2 bounds.1
  rwa [Char.ofNat_toNat] at ordinary

end Text

namespace Numeral

variable {digit? : Char → Option Nat} {value : Char → Nat}

/-- A row of digits is taken up to the first character that is none. -/
theorem takeDigits_append {cs rest : List Char} (digits : ∀ c ∈ cs, digit? c = some (value c))
    (stops : ∀ c ∈ rest.head?, digit? c = none) :
    takeDigits digit? (cs ++ rest) = (cs.map value, rest) := by
  induction cs with
  | nil =>
    cases rest with
    | nil => rfl
    | cons c rest => simp [takeDigits, stops c rfl]
  | cons c cs ih =>
    have first := digits c List.mem_cons_self
    have others := ih fun d member => digits d (List.mem_cons_of_mem c member)
    simp [takeDigits, first, others]

/-- A row of digits by itself is a numeral. -/
theorem read?_digits {cs : List Char} (nonempty : cs ≠ [])
    (digits : ∀ c ∈ cs, digit? c = some (value c))
    (unsigned : ∀ c ∈ cs, c ≠ '+' ∧ c ≠ '-') :
    read? digit? cs = some ⟨false, cs.map value, none, none⟩ := by
  have sign : takeSign cs = (false, cs) := by
    cases cs with
    | nil => rfl
    | cons c rest =>
      obtain ⟨plus, minus⟩ := unsigned c List.mem_cons_self
      simp [takeSign, plus, minus]
  have taken : takeDigits digit? (cs ++ []) = (cs.map value, []) := takeDigits_append digits nofun
  rw [List.append_nil] at taken
  simp [read?, sign, taken, takeFraction, readExponent?, nonempty]

theorem ofDigits_toDigits (n : Nat) :
    ofDigits ((Nat.toDigits 10 n).map fun c => c.toNat - '0'.toNat) = n := by
  have denoted : Nat.ofDigitChars 10 (Nat.toDigits 10 n) 0 = n := Nat.ofDigitChars_ten_toDigits
  rw [Nat.ofDigitChars_eq_foldl] at denoted
  rw [ofDigits, List.foldl_map]
  exact denoted

end Numeral

/-! ## Whole numbers -/

theorem Number.toList_text_natural (n : Nat) :
    (Number.int n).text.toList = Nat.toDigits 10 n := by
  simp [text, toString, Int.repr, Nat.repr]

theorem Number.toList_text_negSucc (n : Nat) :
    (Number.int (.negSucc n)).text.toList = '-' :: Nat.toDigits 10 (n + 1) := by
  simp [text, toString, Int.repr, Nat.repr]

theorem Numeral.read?_toDigits (n : Nat) :
    read? Text.digit? (Nat.toDigits 10 n) =
      some ⟨false, (Nat.toDigits 10 n).map fun c => c.toNat - '0'.toNat, none, none⟩ := by
  apply read?_digits Nat.toDigits_ne_nil
  · intro c member
    exact Text.digit?_of_isDigit (Text.isDigit_of_mem_toDigits member)
  · intro c member
    have digit := Text.isDigit_of_mem_toDigits member
    constructor
    · rintro rfl
      simp [Char.isDigit] at digit
    · rintro rfl
      simp [Char.isDigit] at digit

/-- Whole numbers that are not too long are typed for themselves. -/
theorem Fragment.numberOf?_toDigits {n : Nat} (short : n < 10 ^ wholeDigits) :
    (Numeral.read? Text.digit? (Nat.toDigits 10 n)).bind numberOf? = some (.int n) := by
  have length : (Nat.toDigits 10 n).length ≤ wholeDigits :=
    (Nat.length_toDigits_le_iff (by decide) (by decide)).mpr short
  rw [Numeral.read?_toDigits, Option.bind_some, numberOf?, if_pos]
  · rw [Numeral.toInt, Numeral.ofDigits_toDigits]
    rfl
  · simpa [Numeral.isInteger] using length

end FormulaEditor
