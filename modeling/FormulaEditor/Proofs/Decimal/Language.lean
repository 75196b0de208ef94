import Mathlib.Computability.Language
import FormulaEditor.Proofs.Decimal.WrittenNumeral

/-! # The language of decimal numbers

The texts of decimal numbers, put together from single characters by joining, by choice and by
repetition.  They are exactly the texts of written numerals, and so those that are read as numerals.
-/

namespace FormulaEditor.DecimalLanguage

open scoped Computability

/-! ## The language -/

/-- One character of a kind. -/
def oneOf (kind : Char → Prop) : Language Char := {s | ∃ c, kind c ∧ s = [c]}

def optional (l : Language Char) : Language Char := 1 + l

/-- One decimal digit of any script. -/
def digit : Language Char := oneOf fun c => (Text.digit? c).isSome = true

def digits : Language Char := digit * digit∗

def sign : Language Char := oneOf fun c => c = '+' ∨ c = '-'

def point : Language Char := oneOf (· = '.')

/-- Digits, behind which a point and further digits may stand, or a point and digits. -/
def significand : Language Char := digits * optional (point * digit∗) + point * digits

def exponent : Language Char := oneOf (fun c => c = 'e' ∨ c = 'E') * (optional sign * digits)

def decimalNumber : Language Char := optional sign * (significand * optional exponent)

/-! ## Membership -/

variable {s : List Char}

theorem mem_oneOf {kind : Char → Prop} : s ∈ oneOf kind ↔ ∃ c, kind c ∧ s = [c] := Iff.rfl

theorem mem_optional {l : Language Char} : s ∈ optional l ↔ s = [] ∨ s ∈ l := by
  rw [optional, Language.mem_add, Language.mem_one]

theorem mem_repeated {kind : Char → Prop} : s ∈ (oneOf kind)∗ ↔ ∀ c ∈ s, kind c := by
  rw [Language.mem_kstar]
  constructor
  · rintro ⟨parts, rfl, single⟩ c member
    obtain ⟨part, inside, member⟩ := List.mem_flatten.mp member
    obtain ⟨c', kind, rfl⟩ := single part inside
    rw [List.mem_singleton.mp member]
    exact kind
  · intro all
    refine ⟨s.map fun c => [c], (List.flatMap_singleton' s).symm, ?_⟩
    intro part member
    obtain ⟨c, inside, rfl⟩ := List.mem_map.mp member
    exact ⟨c, all c inside, rfl⟩

theorem mem_repeated_digit : s ∈ digit∗ ↔ ∃ row : DigitRow, s = row.chars := by
  rw [digit, mem_repeated]
  constructor
  · exact fun all => ⟨⟨s, all⟩, rfl⟩
  · rintro ⟨row, rfl⟩
    exact row.digits

theorem mem_digits : s ∈ digits ↔ ∃ row : DigitRow, s = row.chars ∧ row.chars ≠ [] := by
  rw [digits, Language.mem_mul]
  constructor
  · rintro ⟨_, ⟨c, first, rfl⟩, rest, others, rfl⟩
    obtain ⟨row, rfl⟩ := mem_repeated_digit.mp others
    exact ⟨⟨c :: row.chars, List.forall_mem_cons.mpr ⟨first, row.digits⟩⟩, rfl, by simp⟩
  · rintro ⟨row, rfl, nonempty⟩
    obtain ⟨c, rest, chars⟩ := List.exists_cons_of_ne_nil nonempty
    have all := row.digits
    rw [chars, List.forall_mem_cons] at all
    rw [chars]
    exact ⟨[c], ⟨c, all.1, rfl⟩, rest, mem_repeated.mpr all.2, rfl⟩

theorem mem_optional_sign : s ∈ optional sign ↔ ∃ symbol, s = Numeral.signText symbol := by
  rw [mem_optional, sign, mem_oneOf]
  constructor
  · rintro (rfl | ⟨c, rfl | rfl, rfl⟩)
    · exact ⟨none, rfl⟩
    · exact ⟨some .plus, rfl⟩
    · exact ⟨some .minus, rfl⟩
  · rintro ⟨_ | symbol, rfl⟩
    · exact .inl rfl
    · refine .inr ⟨_, ?_, rfl⟩
      cases symbol <;> decide

theorem mem_exponent : s ∈ exponent ↔ ∃ e : WrittenExponent, s = e.text := by
  simp only [exponent, Language.mem_mul, mem_oneOf, mem_optional_sign, mem_digits]
  constructor
  · rintro ⟨_, ⟨mark, isMark, rfl⟩, _, ⟨_, ⟨symbol, rfl⟩, _, ⟨row, rfl, nonempty⟩, rfl⟩, rfl⟩
    exact ⟨⟨mark, isMark, symbol, row, nonempty⟩, rfl⟩
  · rintro ⟨e, rfl⟩
    exact ⟨_, ⟨e.mark, e.isMark, rfl⟩, _, ⟨_, ⟨e.sign, rfl⟩, _, ⟨e.row, rfl, e.nonempty⟩, rfl⟩, rfl⟩

theorem mem_optional_exponent :
    s ∈ optional exponent ↔ ∃ e, s = WrittenExponent.optionalText e := by
  rw [mem_optional, mem_exponent]
  constructor
  · rintro (rfl | ⟨e, rfl⟩)
    · exact ⟨none, rfl⟩
    · exact ⟨some e, rfl⟩
  · rintro ⟨_ | e, rfl⟩
    · exact .inl rfl
    · exact .inr ⟨e, rfl⟩

theorem mem_point_mul {l : Language Char} : s ∈ point * l ↔ ∃ t ∈ l, s = '.' :: t := by
  simp only [point, Language.mem_mul, mem_oneOf]
  constructor
  · rintro ⟨_, ⟨_, rfl, rfl⟩, t, inside, rfl⟩
    exact ⟨t, inside, rfl⟩
  · rintro ⟨t, inside, rfl⟩
    exact ⟨['.'], ⟨'.', rfl, rfl⟩, t, inside, rfl⟩

theorem mem_significand : s ∈ significand ↔ ∃ (whole : DigitRow) (fraction : Option DigitRow),
    s = whole.chars ++ WrittenNumeral.fractionText fraction ∧
    (whole.chars ≠ [] ∨ ∃ row, fraction = some row ∧ row.chars ≠ []) := by
  simp only [significand, Language.mem_add, Language.mem_mul (l := digits), mem_optional,
    mem_point_mul, mem_digits, mem_repeated_digit]
  constructor
  · rintro (⟨_, ⟨whole, rfl, nonempty⟩, _, rfl | ⟨_, ⟨row, rfl⟩, rfl⟩, rfl⟩ |
      ⟨_, ⟨row, rfl, nonempty⟩, rfl⟩)
    · exact ⟨whole, none, rfl, .inl nonempty⟩
    · exact ⟨whole, some row, rfl, .inl nonempty⟩
    · exact ⟨⟨[], nofun⟩, some row, rfl, .inr ⟨row, rfl, nonempty⟩⟩
  · rintro ⟨whole, fraction, rfl, nonempty⟩
    by_cases empty : whole.chars = []
    · obtain ⟨row, rfl, behind⟩ := nonempty.resolve_left (not_not.mpr empty)
      exact .inr ⟨_, ⟨row, rfl, behind⟩, by simp [empty, WrittenNumeral.fractionText]⟩
    · cases fraction with
      | none => exact .inl ⟨_, ⟨whole, rfl, empty⟩, _, .inl rfl, rfl⟩
      | some row => exact .inl ⟨_, ⟨whole, rfl, empty⟩, _, .inr ⟨_, ⟨row, rfl⟩, rfl⟩, rfl⟩

theorem mem_decimalNumber : s ∈ decimalNumber ↔ ∃ w : WrittenNumeral, s = w.text := by
  simp only [decimalNumber, Language.mem_mul, mem_optional_sign, mem_significand,
    mem_optional_exponent]
  constructor
  · rintro ⟨_, ⟨symbol, rfl⟩, _, ⟨_, ⟨whole, fraction, rfl, nonempty⟩, _, ⟨e, rfl⟩, rfl⟩, rfl⟩
    exact ⟨⟨symbol, whole, fraction, e, nonempty⟩, by simp [WrittenNumeral.text]⟩
  · rintro ⟨w, rfl⟩
    exact ⟨_, ⟨w.sign, rfl⟩, _, ⟨_, ⟨w.whole, w.fraction, rfl, w.nonempty⟩, _, ⟨w.exponent, rfl⟩,
      rfl⟩, by simp [WrittenNumeral.text]⟩

end FormulaEditor.DecimalLanguage
