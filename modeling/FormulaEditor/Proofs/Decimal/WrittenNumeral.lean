import Mathlib.Data.Nat.Digits.Defs
import FormulaEditor.Proofs.Decimal.Numeral
import FormulaEditor.Proofs.Grammar.Derivation

/-! # Numerals as they are written

A written numeral is the parts of a numeral with the characters that they are written in: the signs
may be left out, and the digits may be those of any script.  The reader accepts exactly the texts of
written numerals, and gives what they are written for.
-/

namespace FormulaEditor

open Grammar (SumSymbol)

/-! ## Characters of numerals -/

theorem Text.not_isBlank_of_digit {c : Char} (digit : (digit? c).isSome = true) :
    isBlank c = false := by
  have apart : ∀ start ∈ digitZeros, ∀ r ∈ blankRanges, r.2 < start ∨ start + 9 < r.1 := by decide
  obtain ⟨d, digit⟩ := Option.isSome_iff_exists.mp digit
  obtain ⟨start, found, -⟩ := Option.map_eq_some_iff.mp digit
  have within := List.find?_some found
  rw [Bool.eq_false_iff]
  intro blank
  obtain ⟨r, member, least, most⟩ := (inRanges_iff _ _).mp blank
  have outside := apart start (List.mem_of_find?_eq_some found) r member
  simp only [Bool.and_eq_true, decide_eq_true_eq] at within
  omega

/-! ## Signs -/

namespace Numeral

/-- A sign as it is written, or nothing if it is left out. -/
def signText (sign : Option SumSymbol) : List Char :=
  (sign.map fun symbol => symbol.operator.char).toList

def isMinus (sign : Option SumSymbol) : Bool := sign == some .minus

theorem takeSign_of_unsigned {rest : List Char}
    (unsigned : ∀ c ∈ rest.head?, c ≠ '+' ∧ c ≠ '-') : takeSign rest = (false, rest) := by
  cases rest with
  | nil => rfl
  | cons c rest =>
    obtain ⟨plus, minus⟩ := unsigned c rfl
    simp [takeSign, plus, minus]

theorem takeSign_append (sign : Option SumSymbol) {rest : List Char}
    (unsigned : ∀ c ∈ rest.head?, c ≠ '+' ∧ c ≠ '-') :
    takeSign (signText sign ++ rest) = (isMinus sign, rest) := by
  match sign with
  | some .plus => rfl
  | some .minus => rfl
  | none => exact takeSign_of_unsigned unsigned

theorem exists_takeSign (s : List Char) :
    ∃ sign, s = signText sign ++ (takeSign s).2 ∧ (takeSign s).1 = isMinus sign := by
  rw [takeSign.eq_def]
  split
  · exact ⟨some .plus, rfl, rfl⟩
  · exact ⟨some .minus, rfl, rfl⟩
  · exact ⟨none, rfl, rfl⟩

end Numeral

/-! ## Rows of digits -/

/-- A row of decimal digits of any script. -/
structure DigitRow where
  chars : List Char
  digits : ∀ c ∈ chars, (Text.digit? c).isSome = true

namespace DigitRow

def values (row : DigitRow) : List Nat := row.chars.map fun c => (Text.digit? c).getD 0

theorem length_values (row : DigitRow) : row.values.length = row.chars.length := List.length_map _

theorem values_ne_nil (row : DigitRow) (nonempty : row.chars ≠ []) : row.values ≠ [] := by
  simpa [values] using nonempty

/-- The natural number that the digits denote in base ten. -/
def natural (row : DigitRow) : Nat := Nat.ofDigits 10 row.values.reverse

theorem natural_lt (row : DigitRow) : row.natural < 10 ^ row.chars.length := by
  have digits : ∀ d ∈ row.values.reverse, d < 10 := by
    intro d member
    obtain ⟨c, inside, rfl⟩ := List.mem_map.mp (List.mem_reverse.mp member)
    obtain ⟨d, digit⟩ := Option.isSome_iff_exists.mp (row.digits c inside)
    rw [digit]
    exact Text.digit?_lt digit
  rw [← row.length_values, ← List.length_reverse]
  exact Nat.ofDigits_lt_base_pow_length (by decide) digits

theorem ofDigits_values (row : DigitRow) : Numeral.ofDigits row.values = row.natural := by
  rw [natural, Nat.ofDigits_eq_foldr, List.foldr_reverse, Numeral.ofDigits]
  congr 1
  funext n d
  exact Nat.add_comm _ _

theorem takeDigits_append (row : DigitRow) {rest : List Char}
    (stops : ∀ c ∈ rest.head?, Text.digit? c = none) :
    Numeral.takeDigits Text.digit? (row.chars ++ rest) = (row.values, rest) := by
  apply Numeral.takeDigits_append _ stops
  intro c member
  obtain ⟨d, digit⟩ := Option.isSome_iff_exists.mp (row.digits c member)
  rw [digit, Option.getD_some]

theorem exists_takeDigits (s : List Char) :
    ∃ row : DigitRow, s = row.chars ++ (Numeral.takeDigits Text.digit? s).2 ∧
      (Numeral.takeDigits Text.digit? s).1 = row.values := by
  induction s with
  | nil => exact ⟨⟨[], nofun⟩, rfl, rfl⟩
  | cons c rest ih =>
    obtain ⟨row, split, values⟩ := ih
    cases digit : Text.digit? c with
    | none =>
      have taken : Numeral.takeDigits Text.digit? (c :: rest) = ([], c :: rest) := by
        simp [Numeral.takeDigits, digit]
      rw [taken]
      exact ⟨⟨[], nofun⟩, rfl, rfl⟩
    | some d =>
      have all : ∀ c' ∈ c :: row.chars, (Text.digit? c').isSome = true := by
        simp only [List.forall_mem_cons, digit, Option.isSome_some, true_and]
        exact row.digits
      refine ⟨⟨c :: row.chars, all⟩, ?_, ?_⟩
      · simpa [Numeral.takeDigits, digit] using split
      · simpa [Numeral.takeDigits, digit, DigitRow.values] using values

/-- A digit is no other character of a numeral. -/
theorem ne_of_mem (row : DigitRow) {c : Char} (member : c ∈ row.chars) :
    c ≠ '+' ∧ c ≠ '-' ∧ c ≠ '.' ∧ c ≠ '_' := by
  have digit := row.digits c member
  refine ⟨?_, ?_, ?_, ?_⟩ <;>
  · rintro rfl
    exact absurd digit (by decide)

end DigitRow

/-! ## Exponents -/

/-- An exponent of ten as it is written. -/
structure WrittenExponent where
  mark : Char
  isMark : mark = 'e' ∨ mark = 'E'
  sign : Option SumSymbol
  row : DigitRow
  nonempty : row.chars ≠ []

namespace WrittenExponent

def text (e : WrittenExponent) : List Char := e.mark :: (Numeral.signText e.sign ++ e.row.chars)

def value (e : WrittenExponent) : Int :=
  Numeral.withSign (Numeral.isMinus e.sign) (Numeral.ofDigits e.row.values)

/-- The text of an exponent, or nothing. -/
def optionalText (e : Option WrittenExponent) : List Char := e.elim [] text

theorem readExponent?_text (e : WrittenExponent) :
    Numeral.readExponent? Text.digit? e.text = some (some e.value) := by
  have unsigned : ∀ c ∈ e.row.chars.head?, c ≠ '+' ∧ c ≠ '-' := by
    intro c head
    have others := e.row.ne_of_mem (List.mem_of_mem_head? head)
    exact ⟨others.1, others.2.1⟩
  have taken : Numeral.takeDigits Text.digit? (e.row.chars ++ []) = (e.row.values, []) :=
    e.row.takeDigits_append nofun
  rw [List.append_nil] at taken
  obtain ⟨d, digits, values⟩ := List.exists_cons_of_ne_nil (e.row.values_ne_nil e.nonempty)
  simp only [text, Numeral.readExponent?, if_pos e.isMark, Numeral.takeSign_append _ unsigned,
    taken, value, values]

/-- Exactly the texts of exponents are read as exponents. -/
theorem readExponent?_eq_some_iff {s : List Char} {x : Option Int} :
    Numeral.readExponent? Text.digit? s = some x ↔
      ∃ e : Option WrittenExponent, s = optionalText e ∧ x = e.map value := by
  constructor
  · intro read
    cases s with
    | nil =>
      cases read
      exact ⟨none, rfl, rfl⟩
    | cons c rest =>
      obtain ⟨sign, signed, minus⟩ := Numeral.exists_takeSign rest
      obtain ⟨row, split, values⟩ := DigitRow.exists_takeDigits (Numeral.takeSign rest).2
      rw [Numeral.readExponent?] at read
      split at read
      · next mark =>
        split at read
        · next d digits taken =>
          rw [taken] at split values
          have nonempty : row.chars ≠ [] := by
            rintro empty
            simp [DigitRow.values, empty] at values
          refine ⟨some ⟨c, mark, sign, row, nonempty⟩, ?_, ?_⟩
          · rw [List.append_nil] at split
            simp [optionalText, text, ← split, ← signed]
          · simpa [value, ← values, ← minus] using read.symm
        · cases read
      · cases read
  · rintro ⟨e, rfl, rfl⟩
    cases e with
    | none => rfl
    | some e => exact e.readExponent?_text

theorem mem_head?_optionalText {e : Option WrittenExponent} {c : Char}
    (head : c ∈ (optionalText e).head?) : c = 'e' ∨ c = 'E' := by
  cases e with
  | none => cases head
  | some e =>
    cases head
    exact e.isMark

end WrittenExponent

/-! ## Numerals -/

/-- A numeral as it is written. At least one digit stands beside the point. -/
structure WrittenNumeral where
  sign : Option SumSymbol
  whole : DigitRow
  /-- the digits behind the point, when there is a point -/
  fraction : Option DigitRow
  exponent : Option WrittenExponent
  nonempty : whole.chars ≠ [] ∨ ∃ row, fraction = some row ∧ row.chars ≠ []

namespace WrittenNumeral

/-- The point and the digits behind it, or nothing. -/
def fractionText (fraction : Option DigitRow) : List Char :=
  fraction.elim [] fun row => '.' :: row.chars

def text (w : WrittenNumeral) : List Char :=
  Numeral.signText w.sign ++ (w.whole.chars ++
    (fractionText w.fraction ++ WrittenExponent.optionalText w.exponent))

/-- What the numeral is written for. -/
def numeral (w : WrittenNumeral) : Numeral :=
  ⟨Numeral.isMinus w.sign, w.whole.values, w.fraction.map (·.values), w.exponent.map (·.value)⟩

theorem takeFraction_append (fraction : Option DigitRow) (e : Option WrittenExponent) :
    Numeral.takeFraction Text.digit?
        (fractionText fraction ++ WrittenExponent.optionalText e) =
      (fraction.map (·.values), WrittenExponent.optionalText e) := by
  have marks : ∀ c ∈ (WrittenExponent.optionalText e).head?, c = 'e' ∨ c = 'E' :=
    fun c => WrittenExponent.mem_head?_optionalText
  cases fraction with
  | none =>
    generalize WrittenExponent.optionalText e = rest at marks
    cases rest with
    | nil => rfl
    | cons c rest => cases marks c rfl <;> subst c <;> rfl
  | some row =>
    have stops : ∀ c ∈ (WrittenExponent.optionalText e).head?, Text.digit? c = none := by
      intro c head
      cases marks c head <;> subst c <;> decide
    simp [fractionText, Numeral.takeFraction, row.takeDigits_append stops]

theorem exists_takeFraction (s : List Char) :
    ∃ fraction : Option DigitRow,
      s = fractionText fraction ++ (Numeral.takeFraction Text.digit? s).2 ∧
      (Numeral.takeFraction Text.digit? s).1 = fraction.map (·.values) := by
  rw [Numeral.takeFraction.eq_def]
  split
  · next rest =>
    obtain ⟨row, split, values⟩ := DigitRow.exists_takeDigits rest
    refine ⟨some row, ?_, ?_⟩
    · simp [fractionText, ← split]
    · simp [values]
  · exact ⟨none, rfl, rfl⟩

theorem head?_behind {fraction : Option DigitRow} {e : Option WrittenExponent} {c : Char}
    (head : c ∈ (fractionText fraction ++ WrittenExponent.optionalText e).head?) :
    c = '.' ∨ c = 'e' ∨ c = 'E' := by
  cases fraction with
  | none => exact .inr (WrittenExponent.mem_head?_optionalText head)
  | some row =>
    cases head
    exact .inl rfl

theorem read?_text (w : WrittenNumeral) :
    Numeral.read? Text.digit? w.text = some w.numeral := by
  have stops : ∀ c ∈ (fractionText w.fraction ++ WrittenExponent.optionalText w.exponent).head?,
      Text.digit? c = none := by
    intro c head
    rcases head?_behind head with rfl | rfl | rfl <;> decide
  have unsigned : ∀ c ∈ (w.whole.chars ++ (fractionText w.fraction ++
      WrittenExponent.optionalText w.exponent)).head?, c ≠ '+' ∧ c ≠ '-' := by
    intro c head
    rw [List.head?_append, Option.mem_def, Option.or_eq_some_iff] at head
    cases head with
    | inl digit =>
      have others := w.whole.ne_of_mem (List.mem_of_mem_head? digit)
      exact ⟨others.1, others.2.1⟩
    | inr behind => rcases head?_behind behind.2 with rfl | rfl | rfl <;> decide
  have exponent := WrittenExponent.readExponent?_eq_some_iff.mpr ⟨w.exponent, rfl, rfl⟩
  have digits : ¬ (w.whole.values.isEmpty &&
      ((w.fraction.map (·.values)).getD []).isEmpty) = true := by
    rw [Bool.and_eq_true, List.isEmpty_iff, List.isEmpty_iff]
    rintro ⟨whole, fraction⟩
    cases w.nonempty with
    | inl some => exact w.whole.values_ne_nil some whole
    | inr some =>
      obtain ⟨row, found, nonempty⟩ := some
      rw [found] at fraction
      exact row.values_ne_nil nonempty fraction
  simp only [Numeral.read?, text, Numeral.takeSign_append _ unsigned,
    w.whole.takeDigits_append stops, takeFraction_append, exponent, if_neg digits]
  rfl

theorem text_ne_nil (w : WrittenNumeral) : w.text ≠ [] := by
  intro empty
  have read := w.read?_text
  rw [empty] at read
  cases read

/-- The reader accepts exactly what written numerals are written as. -/
theorem read?_eq_some_iff {s : List Char} {n : Numeral} :
    Numeral.read? Text.digit? s = some n ↔ ∃ w : WrittenNumeral, s = w.text ∧ n = w.numeral := by
  constructor
  · intro read
    obtain ⟨sign, signed, minus⟩ := Numeral.exists_takeSign s
    obtain ⟨whole, behindSign, wholeValues⟩ := DigitRow.exists_takeDigits (Numeral.takeSign s).2
    obtain ⟨fraction, behindWhole, fractionValues⟩ :=
      exists_takeFraction (Numeral.takeDigits Text.digit? (Numeral.takeSign s).2).2
    simp only [Numeral.read?, minus, wholeValues, fractionValues] at read
    split at read
    · cases read
    · next digits =>
      obtain ⟨x, exponent, rfl⟩ := Option.map_eq_some_iff.mp read
      obtain ⟨e, behindFraction, rfl⟩ := WrittenExponent.readExponent?_eq_some_iff.mp exponent
      have nonempty : whole.chars ≠ [] ∨ ∃ row, fraction = some row ∧ row.chars ≠ [] := by
        cases fraction with
        | none => simpa [DigitRow.values] using digits
        | some row => simpa [DigitRow.values, ← imp_iff_not_or] using digits
      refine ⟨⟨sign, whole, fraction, e, nonempty⟩, ?_, rfl⟩
      rw [text, ← behindFraction, ← behindWhole, ← behindSign, ← signed]
  · rintro ⟨w, rfl, rfl⟩
    exact w.read?_text

/-! ### Characters -/

variable {w : WrittenNumeral} {c : Char}

theorem mem_text (member : c ∈ w.text) :
    c ∈ ['+', '-', '.', 'e', 'E'] ∨ (Text.digit? c).isSome = true := by
  have sign {sign : Option Grammar.SumSymbol} (member : c ∈ Numeral.signText sign) :
      c ∈ ['+', '-', '.', 'e', 'E'] := by
    cases sign with
    | none => cases member
    | some symbol =>
      cases symbol <;>
      · rw [List.mem_singleton.mp member]
        decide
  simp only [text, List.mem_append] at member
  rcases member with signed | whole | fraction | exponent
  · exact .inl (sign signed)
  · exact .inr (w.whole.digits c whole)
  · cases found : w.fraction with
    | none => simp [fractionText, found] at fraction
    | some row =>
      rw [found, fractionText, Option.elim_some, List.mem_cons] at fraction
      refine fraction.imp ?_ (row.digits c)
      rintro rfl
      decide
  · cases found : w.exponent with
    | none => simp [WrittenExponent.optionalText, found] at exponent
    | some e =>
      rw [found, WrittenExponent.optionalText, Option.elim_some, WrittenExponent.text,
        List.mem_cons, List.mem_append] at exponent
      rcases exponent with rfl | signed | digits
      · cases e.isMark with
        | inl small => exact .inl (by simp [small])
        | inr capital => exact .inl (by simp [capital])
      · exact .inl (sign signed)
      · exact .inr (e.row.digits c digits)

theorem ordinary (member : c ∈ w.text) : Text.isBlank c = false ∧ c ≠ '_' := by
  cases mem_text member with
  | inl mark =>
    simp only [List.mem_cons, List.not_mem_nil, or_false] at mark
    rcases mark with rfl | rfl | rfl | rfl | rfl <;> decide
  | inr digit =>
    refine ⟨Text.not_isBlank_of_digit digit, ?_⟩
    rintro rfl
    exact absurd digit (by decide)

end WrittenNumeral

end FormulaEditor
