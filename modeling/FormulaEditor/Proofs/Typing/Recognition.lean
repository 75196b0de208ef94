import FormulaEditor.Decimal.LooseNumeral
import FormulaEditor.Proofs.Binary64.Parity
import FormulaEditor.Proofs.Decimal.Language
import FormulaEditor.Proofs.Typing.Piece
import FormulaEditor.Proofs.Typing.WholeNumber
import FormulaEditor.Proofs.Validation.Records

/-! # What a fragment is recognised as

Without the blanks around it, a fragment is a number just if it is in the language of decimal
numbers and is not rounded to an infinity, an operator just if it is the symbol of one, and else a
text.
Conversions that accept more than this language agree on it.
-/

namespace FormulaEditor

/-! ## Conversions -/

namespace LooseNumeral

theorem ungroup?_of_forall {before : Bool} {s : List Char} (plain : ∀ c ∈ s, c ≠ '_') :
    ungroup? before s = some s := by
  induction s generalizing before with
  | nil => rfl
  | cons c rest ih =>
    rw [List.forall_mem_cons] at plain
    rw [ungroup?.eq_4 _ _ _ plain.1, ih plain.2, Option.map_some]

theorem ungrouped_text (w : WrittenNumeral) :
    ungroup? false (Text.trimBy Text.isWhiteSpace w.text) = some w.text := by
  have kept : ∀ c ∈ w.text, Text.isWhiteSpace c = false := by
    intro c member
    simp [Text.isWhiteSpace, w.ordinary member]
  rw [Text.trimBy_of_forall kept]
  exact ungroup?_of_forall fun c member => (w.ordinary member).2

theorem readBinary64?_text (w : WrittenNumeral) :
    readBinary64? (String.ofList w.text) = some w.numeral.toBinary64 := by
  rw [readBinary64?, String.toList_ofList, ungrouped_text, Option.bind_some, readPlain?,
    w.read?_text]

theorem readInt?_text (w : WrittenNumeral) (isInteger : w.numeral.isInteger = true)
    (short : w.numeral.whole.length ≤ Fragment.wholeDigits) :
    readInt? (String.ofList w.text) = some w.numeral.toInt := by
  have within : w.numeral.whole.length ≤ integerDigitLimit := Nat.le_trans short (by decide)
  rw [readInt?, String.toList_ofList, ungrouped_text, Option.bind_some, w.read?_text]
  simp [isInteger, within]

end LooseNumeral

/-! ## Numbers -/

namespace Fragment

/-- The number that a fragment is typed for; a torn one is typed for none. -/
def typedNumber? (fragment : RawText) : Option Number := fragment.toString?.bind number?

variable {fragment : RawText}

theorem typedNumber?_eq_some_iff {x : Number} :
    typedNumber? fragment = some x ↔ ∃ w : WrittenNumeral,
      fragment.strip = .whole (String.ofList w.text) ∧ numberOf? w.numeral = some x := by
  rw [typedNumber?, number?_eq, Option.bind_eq_some_iff]
  constructor
  · rintro ⟨s, stripped, read⟩
    obtain ⟨n, read, denoted⟩ := Option.bind_eq_some_iff.mp read
    obtain ⟨w, text, rfl⟩ := WrittenNumeral.read?_eq_some_iff.mp read
    refine ⟨w, ?_, denoted⟩
    rw [← text, String.ofList_toList]
    cases stripping : fragment.strip with
    | whole t => rw [stripping] at stripped; exact congrArg _ (Option.some.inj stripped)
    | torn => rw [stripping] at stripped; cases stripped
  · rintro ⟨w, stripped, denoted⟩
    refine ⟨String.ofList w.text, by rw [stripped]; rfl, ?_⟩
    rw [String.toList_ofList, w.read?_text, Option.bind_some, denoted]

/-! ### Whole numbers -/

theorem integer_cases {w : WrittenNumeral} (isInteger : w.numeral.isInteger = true) :
    w.fraction = none ∧ w.exponent = none := by
  simpa [Numeral.isInteger, WrittenNumeral.numeral] using isInteger

theorem text_of_integer {w : WrittenNumeral} (isInteger : w.numeral.isInteger = true) :
    w.text = Numeral.signText w.sign ++ w.whole.chars := by
  obtain ⟨fraction, exponent⟩ := integer_cases isInteger
  simp [WrittenNumeral.text, fraction, exponent, WrittenNumeral.fractionText,
    WrittenExponent.optionalText]

/-- Whole numbers that are not too long are below the first that is rounded. -/
theorem isFinite_of_short {w : WrittenNumeral} (isInteger : w.numeral.isInteger = true)
    (short : w.numeral.whole.length ≤ wholeDigits) : w.numeral.toBinary64.isFinite = true := by
  rw [WrittenNumeral.numeral, DigitRow.length_values] at short
  have small : w.whole.natural < 2 ^ 53 :=
    calc w.whole.natural
        < 10 ^ w.whole.chars.length := w.whole.natural_lt
      _ ≤ 10 ^ wholeDigits := Nat.pow_le_pow_right (by decide) short
      _ < 2 ^ 53 := by decide
  have magnitude : w.numeral.magnitude = ⟨w.whole.natural, 0⟩ := by
    obtain ⟨fraction, exponent⟩ := integer_cases isInteger
    simp [Numeral.magnitude, WrittenNumeral.numeral, fraction, exponent, DigitRow.ofDigits_values]
  rw [Numeral.toBinary64, magnitude, Decimal.toBinary64_natural]
  by_cases empty : w.whole.natural = 0
  · rw [empty, Binary64.nearest, if_pos rfl]
    rfl
  · rw [Binary64.nearest_of_lt empty (Nat.le_of_lt_succ ((Nat.log2_lt empty).mpr small))]
    rfl

/-! ### All numbers -/

theorem isFinite_of_typed {w : WrittenNumeral} {x : Number} (typed : numberOf? w.numeral = some x) :
    w.numeral.toBinary64.isFinite = true := by
  rw [numberOf?] at typed
  split at typed
  · next short =>
    rw [Bool.and_eq_true, decide_eq_true_iff] at short
    exact isFinite_of_short short.1 short.2
  · split at typed
    · next finite => exact finite
    · cases typed

theorem typed_of_isFinite {w : WrittenNumeral} (finite : w.numeral.toBinary64.isFinite = true) :
    ∃ x, numberOf? w.numeral = some x := by
  rw [numberOf?, if_pos finite]
  split
  · exact ⟨_, rfl⟩
  · exact ⟨_, rfl⟩

theorem numberOf?_eq_int_iff {w : WrittenNumeral} {n : Int} :
    numberOf? w.numeral = some (.int n) ↔
      w.numeral.isInteger = true ∧ w.numeral.whole.length ≤ wholeDigits ∧
        n = w.numeral.toInt := by
  rw [numberOf?]
  split
  · next short =>
    rw [Bool.and_eq_true, decide_eq_true_iff] at short
    simp [short, eq_comm]
  · next long =>
    rw [Bool.and_eq_true, decide_eq_true_iff, not_and] at long
    refine iff_of_false ?_ fun integer => long integer.1 integer.2.1
    split <;> simp

/-- A short row of digits is typed for the whole number that it denotes. -/
theorem typedNumber?_eq_int_iff {n : Int} :
    typedNumber? fragment = some (.int n) ↔
      ∃ (sign : Option Grammar.SumSymbol) (row : DigitRow),
        fragment.strip = String.ofList (Numeral.signText sign ++ row.chars) ∧
        row.chars ≠ [] ∧ row.chars.length ≤ 15 ∧
        n = if sign = some .minus then -(row.natural : Int) else row.natural := by
  have denoted (w : WrittenNumeral) : w.numeral.toInt =
      if w.sign = some .minus then -(w.whole.natural : Int) else w.whole.natural := by
    rw [Numeral.toInt, WrittenNumeral.numeral, DigitRow.ofDigits_values, Numeral.withSign]
    simp [Numeral.isMinus]
  rw [typedNumber?_eq_some_iff]
  constructor
  · rintro ⟨w, stripped, typed⟩
    obtain ⟨isInteger, short, rfl⟩ := numberOf?_eq_int_iff.mp typed
    have unbroken := (integer_cases isInteger).1
    have nonempty : w.whole.chars ≠ [] := by simpa [unbroken] using w.nonempty
    rw [text_of_integer isInteger] at stripped
    rw [WrittenNumeral.numeral, DigitRow.length_values] at short
    exact ⟨w.sign, w.whole, stripped, nonempty, short, denoted w⟩
  · rintro ⟨sign, row, stripped, nonempty, short, rfl⟩
    refine ⟨⟨sign, row, none, none, .inl nonempty⟩, ?_, ?_⟩
    · rw [text_of_integer rfl, stripped]
    · have written := denoted ⟨sign, row, none, none, .inl nonempty⟩
      refine numberOf?_eq_int_iff.mpr ⟨rfl, ?_, written.symm⟩
      rwa [WrittenNumeral.numeral, DigitRow.length_values]

/-- So a whole number that is typed is a small one. -/
theorem natAbs_lt_of_typed {n : Int} (typed : typedNumber? fragment = some (.int n)) :
    n.natAbs < 10 ^ wholeDigits := by
  obtain ⟨sign, row, -, -, short, denoted⟩ := typedNumber?_eq_int_iff.mp typed
  have magnitude : n.natAbs = row.natural := by
    split at denoted <;> omega
  rw [magnitude]
  exact row.natural_lt.trans_le (Nat.pow_le_pow_right (by decide) short)

theorem numberOf?_eq_float {w : WrittenNumeral} {x : Binary64}
    (typed : numberOf? w.numeral = some (.float x)) : w.numeral.toBinary64 = x := by
  rw [numberOf?] at typed
  split at typed
  · cases typed
  · split at typed <;> cases typed
    rfl

/-! ## Kinds of tokens -/

theorem typedNumber?_symbol {op : Operator} (stripped : fragment.strip = op.symbol) :
    typedNumber? fragment = none := by
  rw [typedNumber?, number?_eq, stripped]
  cases op <;> decide

theorem denoted_of_typed {w : WrittenNumeral} {x : Number}
    (stripped : fragment.strip = .whole (String.ofList w.text))
    (typed : typedNumber? fragment = some x) : numberOf? w.numeral = some x := by
  rw [typedNumber?, number?_eq, stripped, RawText.toString?, Option.bind_some,
    String.toList_ofList, w.read?_text] at typed
  exact typed

theorem ofSymbol?_eq_some_iff {s : RawText} {op : Operator} :
    s.toString?.bind Operator.ofSymbol? = some op ↔ s = op.symbol := by
  rw [Option.bind_eq_some_iff]
  constructor
  · rintro ⟨t, whole, found⟩
    rw [Operator.symbol_of_ofSymbol? found]
    cases s with
    | whole s => exact congrArg _ (Option.some.inj whole)
    | torn => cases whole
  · rintro rfl
    exact ⟨_, rfl, Operator.ofSymbol?_symbol op⟩

/-- The three ways in which a fragment is classified. -/
theorem classify_cases (fragment : RawText) :
    (∃ x, typedNumber? fragment = some x ∧ classify fragment = .number x) ∨
    (∃ op : Operator, typedNumber? fragment = none ∧ fragment.strip = op.symbol ∧
      classify fragment = .operator op) ∨
    (typedNumber? fragment = none ∧ (∀ op : Operator, fragment.strip ≠ op.symbol) ∧
      classify fragment = .text fragment.strip) := by
  cases typed : typedNumber? fragment with
  | some x =>
    rw [typedNumber?] at typed
    exact .inl ⟨x, rfl, by rw [classify, typed]⟩
  | none =>
    rw [typedNumber?] at typed
    cases symbol : fragment.strip.toString?.bind Operator.ofSymbol? with
    | some op =>
      exact .inr (.inl ⟨op, rfl, ofSymbol?_eq_some_iff.mp symbol, by rw [classify, typed, symbol]⟩)
    | none =>
      refine .inr (.inr ⟨rfl, fun op stripped => ?_, by rw [classify, typed, symbol]⟩)
      rw [ofSymbol?_eq_some_iff.mpr stripped] at symbol
      cases symbol

theorem classify_eq_number_iff {x : Number} :
    classify fragment = .number x ↔ typedNumber? fragment = some x := by
  rcases classify_cases fragment with ⟨y, typed, kind⟩ | ⟨op, typed, -, kind⟩ | ⟨typed, -, kind⟩
  all_goals simp [typed, kind]

theorem classify_eq_operator_iff {op : Operator} :
    classify fragment = .operator op ↔ fragment.strip = op.symbol := by
  rcases classify_cases fragment with
    ⟨y, typed, kind⟩ | ⟨op', -, stripped, kind⟩ | ⟨-, other, kind⟩
  · rw [kind]
    -- Numbers are recognised first, but no symbol is a numeral.
    refine iff_of_false nofun fun stripped => ?_
    rw [typedNumber?_symbol stripped] at typed
    cases typed
  · rw [kind, stripped, Token.operator.injEq, RawText.whole.injEq, Operator.symbol_inj]
  · rw [kind]
    exact iff_of_false nofun (other op)

theorem classify_eq_text_iff {t : RawText} :
    classify fragment = .text t ↔
      typedNumber? fragment = none ∧ (∀ op : Operator, fragment.strip ≠ op.symbol) ∧
        t = fragment.strip := by
  rcases classify_cases fragment with
    ⟨y, typed, kind⟩ | ⟨op, -, stripped, kind⟩ | ⟨typed, other, kind⟩
  · simp [kind, typed]
  · rw [kind]
    exact iff_of_false nofun fun text => text.2.1 op stripped
  · simp [kind, typed, other, eq_comm]

theorem flush_of_typed (typed : ¬ fragment.strip = "") :
    flush fragment = match typedNumber? fragment with
      | some x => some (.number x)
      | none => some (.text fragment.strip) := by
  rw [← RawText.isBlank_iff] at typed
  rw [flush, if_neg typed]
  rfl

/-! ### Recognition -/

/-- What a fragment is recognised as. -/
structure Recognition (fragment : RawText) : Prop where
  number : (∃ x, typedNumber? fragment = some x) ↔ ∃ s : String, fragment.strip = s ∧
    s.toList ∈ DecimalLanguage.decimalNumber ∧
    ∃ x, LooseNumeral.readBinary64? s = some x ∧ x.isFinite = true
  int : ∀ n, typedNumber? fragment = some (.int n) ↔
    ∃ (sign : Option Grammar.SumSymbol) (row : DigitRow),
      fragment.strip = String.ofList (Numeral.signText sign ++ row.chars) ∧
      row.chars ≠ [] ∧ row.chars.length ≤ 15 ∧
      n = if sign = some .minus then -(row.natural : Int) else row.natural
  /-- no conversion of a text that is tried fails -/
  converts : ∀ s : String, fragment.strip = s → s.toList ∈ DecimalLanguage.decimalNumber →
    (∃ x, LooseNumeral.readBinary64? s = some x) ∧
    (∀ n, typedNumber? fragment = some (.int n) → LooseNumeral.readInt? s = some n) ∧
    ∀ x, typedNumber? fragment = some (.float x) → LooseNumeral.readBinary64? s = some x
  classify_number : ∀ x, classify fragment = .number x ↔ typedNumber? fragment = some x
  classify_operator : ∀ op, classify fragment = .operator op ↔ fragment.strip = op.symbol
  classify_text : ∀ t, classify fragment = .text t ↔
    typedNumber? fragment = none ∧ (∀ op : Operator, fragment.strip ≠ op.symbol) ∧
      t = fragment.strip
  classify_kind : (∃ x, classify fragment = .number x) ∨ (∃ op, classify fragment = .operator op) ∨
    ∃ t, classify fragment = .text t
  flush : flush fragment =
    if fragment.strip = "" then none
    else match classify fragment with
      | .operator op => some (.text op.symbol)
      | token => some token

/-- Every fragment is recognised so. -/
theorem recognition (fragment : RawText) : Recognition fragment where
  number := by
    constructor
    · rintro ⟨x, typed⟩
      obtain ⟨w, stripped, denoted⟩ := typedNumber?_eq_some_iff.mp typed
      refine ⟨_, stripped, ?_, _, LooseNumeral.readBinary64?_text w, isFinite_of_typed denoted⟩
      rw [String.toList_ofList]
      exact DecimalLanguage.mem_decimalNumber.mpr ⟨w, rfl⟩
    · rintro ⟨s, stripped, member, x, read, finite⟩
      obtain ⟨w, text⟩ := DecimalLanguage.mem_decimalNumber.mp member
      obtain rfl : s = String.ofList w.text := by rw [← text, String.ofList_toList]
      obtain rfl := Option.some.inj ((LooseNumeral.readBinary64?_text w).symm.trans read)
      obtain ⟨x, denoted⟩ := typed_of_isFinite finite
      exact ⟨x, typedNumber?_eq_some_iff.mpr ⟨w, stripped, denoted⟩⟩
  int := fun _ => typedNumber?_eq_int_iff
  converts := by
    intro s stripped member
    obtain ⟨w, text⟩ := DecimalLanguage.mem_decimalNumber.mp member
    obtain rfl : s = String.ofList w.text := by rw [← text, String.ofList_toList]
    refine ⟨⟨_, LooseNumeral.readBinary64?_text w⟩, ?_, ?_⟩
    · intro n typed
      obtain ⟨isInteger, short, rfl⟩ := numberOf?_eq_int_iff.mp (denoted_of_typed stripped typed)
      exact LooseNumeral.readInt?_text w isInteger short
    · intro x typed
      rw [← numberOf?_eq_float (denoted_of_typed stripped typed)]
      exact LooseNumeral.readBinary64?_text w
  classify_number := fun _ => classify_eq_number_iff
  classify_operator := fun _ => classify_eq_operator_iff
  classify_text := fun _ => classify_eq_text_iff
  classify_kind := by
    rcases classify_cases fragment with ⟨y, -, kind⟩ | ⟨op, -, -, kind⟩ | ⟨-, -, kind⟩
    · exact .inl ⟨y, kind⟩
    · exact .inr (.inl ⟨op, kind⟩)
    · exact .inr (.inr ⟨_, kind⟩)
  flush := by
    split
    · next blank => exact flush_of_blank (RawText.isBlank_iff.mpr blank)
    · next typed =>
      rw [flush_of_typed typed]
      rcases classify_cases fragment with
        ⟨y, number, kind⟩ | ⟨op, number, stripped, kind⟩ | ⟨number, -, kind⟩
      · rw [number, kind]
      · rw [number, kind, stripped]
      · rw [number, kind]

end Fragment

end FormulaEditor
