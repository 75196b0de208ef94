import FormulaEditor.Proofs.Binary64.Range
import FormulaEditor.Proofs.Decimal.WrittenNumeral
import FormulaEditor.Proofs.Evaluation.Exactness

/-! # Whole numbers as they are typed

A row of digits with or without a sign is typed for the number that it denotes if it is short.  A
long one is never typed for a whole number: it is rounded to the nearest binary number, and where
that is infinite it stays a text.
-/

namespace FormulaEditor

/-! ## Rounding long rows of digits -/

namespace Binary64

/-- A natural of more than 1024 bits rounds to an infinity. -/
theorem nearest_of_large {n : Nat} (negative : Bool) (large : 2 ^ 1024 ≤ n) :
    nearest negative n 1 = .infinity negative := by
  have exponent := le_binaryExponent large
  have beyond : ¬ max (binaryExponent n 1 - (precision - 1)) leastExponent ≤ greatestExponent := by
    simp only [precision, greatestExponent, leastExponent]
    omega
  rw [nearest, if_neg (ne_zero_of_two_pow_le large)]
  dsimp only
  -- Out of range it makes no difference whether the mantissa was rounded up.
  rw [normalized, if_neg beyond, if_neg fun below => beyond (Int.le_of_lt below), ite_self]

end Binary64

namespace Decimal

/-- The decimal exponent of a natural differs by one at most from an estimate by its bits. -/
theorem decimalExponent_estimate (n : Nat) :
    ((n.log2 : Int) - 1) * 30103 / 100000 - 1 ≤ decimalExponent n 1 ∧
      decimalExponent n 1 ≤ ((n.log2 : Int) - 1) * 30103 / 100000 + 1 := by
  have one : ((Nat.log2 1 : Nat) : Int) = 0 := by decide
  rw [decimalExponent, one, Int.sub_zero, Int.fdiv_eq_ediv_of_nonneg _ (by decide)]
  split
  · omega
  · split <;> omega

theorem le_decimalExponent (n : Nat) : -exponentBound ≤ decimalExponent n 1 := by
  have estimate := decimalExponent_estimate n
  rw [exponentBound]
  omega

/-- A natural with a large decimal exponent is beyond all binary numbers. -/
theorem two_pow_le_of_lt_decimalExponent {n : Nat} (large : exponentBound < decimalExponent n 1) :
    2 ^ 1024 ≤ n := by
  have estimate := decimalExponent_estimate n
  rw [exponentBound] at large
  have bits : 1024 ≤ n.log2 := by omega
  have nonzero : n ≠ 0 := by
    rintro rfl
    exact absurd bits (by decide)
  rwa [Nat.le_log2 nonzero] at bits

/-- A natural is rounded as it is, though one far out of range is not looked at. -/
theorem toBinary64_natural (negative : Bool) (n : Nat) :
    toBinary64 negative ⟨n, 0⟩ = .nearest negative n 1 := by
  rw [toBinary64]
  by_cases zero : n = 0
  · simp [zero, Binary64.nearest]
  · rw [if_neg zero]
    dsimp only
    rw [Int.add_zero, if_neg (Int.not_lt.mpr (le_decimalExponent n))]
    split
    · next beyond =>
      rw [Binary64.nearest_of_large negative (two_pow_le_of_lt_decimalExponent beyond)]
    · simp [powerNum, powerDen]

end Decimal

/-! ## Digits with a sign -/

/-- A whole number as it is typed: a sign, which may be left out, and digits. -/
structure WrittenInteger where
  sign : Option Grammar.SumSymbol
  digits : List Char
  nonempty : digits ≠ [] := by decide
  plain : ∀ c ∈ digits, c.isDigit = true

namespace WrittenInteger

def text (w : WrittenInteger) : String :=
  String.ofList ((w.sign.map fun symbol => symbol.operator.char).toList ++ w.digits)

def isNegative (w : WrittenInteger) : Bool := w.sign == some .minus

/-- The natural number that the digits denote. -/
def natural (w : WrittenInteger) : Nat := Nat.ofDigitChars 10 w.digits 0

/-- The whole number that is denoted. -/
def value (w : WrittenInteger) : Int := if w.isNegative then -(w.natural : Int) else w.natural

/-- The binary number nearest to it; a negative zero keeps its sign. -/
def rounded (w : WrittenInteger) : Binary64 := .nearest w.isNegative w.natural 1

variable {w : WrittenInteger} {fragment : RawText}

/-- The numeral that the text is. -/
def numeral (w : WrittenInteger) : Numeral :=
  ⟨w.isNegative, w.digits.map fun c => c.toNat - '0'.toNat, none, none⟩

theorem ofDigits_whole (w : WrittenInteger) : Numeral.ofDigits w.numeral.whole = w.natural := by
  rw [natural, Nat.ofDigitChars_eq_foldl, Numeral.ofDigits, numeral, List.foldl_map]

theorem toInt_numeral (w : WrittenInteger) : w.numeral.toInt = w.value := by
  rw [Numeral.toInt, ofDigits_whole, Numeral.withSign, value, numeral]

theorem toBinary64_numeral (w : WrittenInteger) : w.numeral.toBinary64 = w.rounded := by
  have magnitude : w.numeral.magnitude = ⟨w.natural, 0⟩ := by
    rw [Numeral.magnitude, ← ofDigits_whole]
    simp [numeral]
  rw [Numeral.toBinary64, magnitude, Decimal.toBinary64_natural, rounded, numeral]

theorem takeSign_text (w : WrittenInteger) :
    Numeral.takeSign w.text.toList = (w.isNegative, w.digits) := by
  have unsigned : ∀ c ∈ w.digits.head?, c ≠ '+' ∧ c ≠ '-' := by
    intro c first
    have digit := w.plain c (List.mem_of_mem_head? first)
    constructor <;>
    · rintro rfl
      cases digit
  rw [text, String.toList_ofList]
  exact Numeral.takeSign_append w.sign unsigned

theorem read?_text (w : WrittenInteger) :
    Numeral.read? Text.digit? w.text.toList = some w.numeral := by
  have taken : Numeral.takeDigits Text.digit? (w.digits ++ []) =
      (w.digits.map fun c => c.toNat - '0'.toNat, []) :=
    Numeral.takeDigits_append (fun c member => Text.digit?_of_isDigit (w.plain c member)) nofun
  rw [List.append_nil] at taken
  simp [Numeral.read?, takeSign_text, taken, Numeral.takeFraction, Numeral.readExponent?,
    w.nonempty, numeral]

theorem number?_text (typed : fragment.strip = .whole w.text) :
    fragment.toString?.bind Fragment.number? =
      if w.digits.length ≤ Fragment.wholeDigits then some (.int w.value)
      else if w.rounded.isFinite then some (.float w.rounded)
      else none := by
  cases fragment with
  | torn => cases typed
  | whole s =>
    have stripped : Text.strip s = w.text := RawText.whole.inj typed
    have isInteger : w.numeral.isInteger = true := rfl
    have length : w.numeral.whole.length = w.digits.length := List.length_map _
    rw [RawText.toString?, Option.bind_some, Fragment.number?, stripped, read?_text,
      Option.bind_some, Fragment.numberOf?, isInteger, length, toInt_numeral, toBinary64_numeral]
    simp

/-- A long text is no operator. -/
theorem ofSymbol?_text (long : Fragment.wholeDigits < w.digits.length) :
    Operator.ofSymbol? w.text = none := by
  cases found : Operator.ofSymbol? w.text with
  | none => rfl
  | some op =>
    have symbol := congrArg (fun s => s.toList.length) (Operator.symbol_of_ofSymbol? found)
    simp only [Operator.symbol, text, String.toList_ofList, List.length_append,
      List.length_singleton] at symbol
    rw [Fragment.wholeDigits] at long
    omega

end WrittenInteger

/-- What a fragment is taken for that is a whole number without the blanks around it. Just if it has
at most 15 digits it is taken for that whole number. If it has more it is taken for the nearest
binary number, or for a text if that is infinite. -/
theorem Fragment.classify_writtenInteger (w : WrittenInteger) {fragment : RawText}
    (typed : fragment.strip = .whole w.text) :
    (classify fragment = .number (.int w.value) ↔ w.digits.length ≤ 15) ∧
    (15 < w.digits.length → classify fragment =
      if w.rounded.isFinite then .number (.float w.rounded) else .text (.whole w.text)) := by
  have number := w.number?_text typed
  have long : 15 < w.digits.length → classify fragment =
      if w.rounded.isFinite then .number (.float w.rounded) else .text (.whole w.text) := by
    intro long
    have tooLong : ¬ w.digits.length ≤ wholeDigits := Nat.not_le.mpr long
    rw [if_neg tooLong] at number
    rw [classify, number]
    by_cases finite : w.rounded.isFinite = true
    · rw [if_pos finite, if_pos finite]
    · rw [if_neg finite, if_neg finite, typed, RawText.toString?, Option.bind_some,
        WrittenInteger.ofSymbol?_text long]
  refine ⟨⟨fun whole => ?_, fun short => ?_⟩, long⟩
  · refine Nat.not_lt.mp fun tooLong => ?_
    rw [long tooLong] at whole
    split at whole <;> cases whole
  · have short : w.digits.length ≤ wholeDigits := short
    rw [if_pos short] at number
    rw [classify, number]

/-- Zero, written as sixteen digits behind a minus. -/
def WrittenInteger.negativeZeros : WrittenInteger where
  sign := some .minus
  digits := List.replicate 16 '0'
  plain := List.all_eq_true.mp (by decide)

theorem Fragment.classify_negativeZeros :
    WrittenInteger.negativeZeros.value = 0 ∧
      classify " -0000000000000000 " = .number (.float (.zero true)) := by
  have typed : RawText.strip " -0000000000000000 " = .whole WrittenInteger.negativeZeros.text := by
    decide +kernel
  have rounded : WrittenInteger.negativeZeros.rounded = .zero true := by decide
  have long := (classify_writtenInteger _ typed).2 (by decide)
  rw [rounded] at long
  exact ⟨by decide, long⟩

/-- A whole number of seventeen digits. -/
def WrittenInteger.seventeenDigits : WrittenInteger where
  sign := none
  digits := "12345678901234567".toList
  plain := List.all_eq_true.mp (by decide)

/-- It is typed for a binary number one above it, and evaluated to that as an exact answer. -/
theorem Fragment.classify_seventeenDigits :
    RawText.strip "12345678901234567" = .whole WrittenInteger.seventeenDigits.text ∧
      WrittenInteger.seventeenDigits.value = 12345678901234567 ∧
      classify "12345678901234567" ≠ .number (.int 12345678901234567) ∧
      ∃ steps, Formula.outcome [classify "12345678901234567"] [] =
        .ok ⟨.int 12345678901234568, true, steps⟩ := by
  refine ⟨by decide +kernel, by decide, by decide +kernel, ?_⟩
  have rounded : classify "12345678901234567" =
      .number (.float (.finite false 6172839450617284 1)) := by decide +kernel
  have read : Expr.ofTokens [.number (.float (.finite false 6172839450617284 1))] =
      .ok (.number (.float (.finite false 6172839450617284 1))) := by cbv
  have computes : (Expr.number (.float (.finite false 6172839450617284 1))).computed [] =
      .ok (.exact (12345678901234568 : Int)) := by
    have rational : Value.ofNumber (.float (.finite false 6172839450617284 1)) =
        .ok (12345678901234568 : Int) := Value.ofNumber_eq_ok_iff.mpr (by decide +kernel)
    rw [Expr.computed_number, rational]
    rfl
  have unbound : Bindings.toExact [] = .ok [] := rfl
  obtain ⟨steps, evaluated⟩ := Expr.evaluate_of_ok unbound computes
  refine ⟨steps, ?_⟩
  rw [rounded, Formula.outcome, read]
  rw [Value.toResult_int_of_lt (by decide +kernel)] at evaluated
  exact evaluated

end FormulaEditor
