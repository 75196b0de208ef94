import Mathlib.Data.List.TakeWhile
import FormulaEditor.Proofs.Binary64.Shortest
import FormulaEditor.Proofs.Decimal.WrittenNumeral

/-! # Rendered decimals are numerals

Every text of a decimal, in whatever notation it is written, is a numeral of the same value.  So the
text of a binary number is read as the number itself.
-/

namespace FormulaEditor

open Grammar (SumSymbol)

/-! ## Rows of digits -/

namespace DigitRow

variable {a b : DigitRow}

def append (a b : DigitRow) : DigitRow :=
  ⟨a.chars ++ b.chars, List.forall_mem_append.mpr ⟨a.digits, b.digits⟩⟩

def zeros (n : Nat) : DigitRow :=
  ⟨List.replicate n '0', fun _ member => List.eq_of_mem_replicate member ▸ by decide⟩

/-- A row of plain digits. -/
def plain (cs : List Char) (digits : ∀ c ∈ cs, c.isDigit = true) : DigitRow :=
  ⟨cs, fun c member => by rw [Text.digit?_of_isDigit (digits c member)]; rfl⟩

/-- A natural in plain digits. -/
def ofNat (n : Nat) : DigitRow :=
  plain (Nat.toDigits 10 n) fun _ => Text.isDigit_of_mem_toDigits

theorem values_append : (a.append b).values = a.values ++ b.values := List.map_append

theorem natural_congr (same : a.chars = b.chars) : a.natural = b.natural := by
  rw [natural, natural, values, values, same]

theorem natural_append :
    (a.append b).natural = a.natural * 10 ^ b.chars.length + b.natural := by
  rw [natural, values_append, List.reverse_append, Nat.ofDigits_append, List.length_reverse,
    length_values, ← natural, ← natural, Nat.mul_comm, Nat.add_comm]

theorem natural_zeros (n : Nat) : (zeros n).natural = 0 := by
  have values : (zeros n).values = List.replicate n 0 := by
    simp [DigitRow.values, zeros, show (Text.digit? '0').getD 0 = 0 by decide]
  rw [natural, values, List.reverse_replicate, Nat.ofDigits_replicate_zero]

theorem natural_ofNat (n : Nat) : (ofNat n).natural = n := by
  have values : (ofNat n).values = (Nat.toDigits 10 n).map fun c => c.toNat - '0'.toNat := by
    apply List.map_congr_left
    intro c member
    rw [Text.digit?_of_isDigit (Text.isDigit_of_mem_toDigits member), Option.getD_some]
  rw [← ofDigits_values, values, Numeral.ofDigits_toDigits]

end DigitRow

/-! ## Numerals without a sign -/

namespace WrittenNumeral

/-- The text behind the sign. -/
def unsigned (w : WrittenNumeral) : List Char :=
  w.whole.chars ++ (fractionText w.fraction ++ WrittenExponent.optionalText w.exponent)

def withSign (w : WrittenNumeral) (sign : Option SumSymbol) : WrittenNumeral :=
  ⟨sign, w.whole, w.fraction, w.exponent, w.nonempty⟩

/-- The numeral is written for a decimal: its text is the given one behind whatever sign, it is no
whole number, and its value is that of the decimal. -/
structure IsFor (w : WrittenNumeral) (cs : List Char) (d : Decimal) : Prop where
  text : w.unsigned = cs
  isInteger : w.numeral.isInteger = false
  value : w.numeral.magnitude.toRat = d.toRat
  /-- it is written with no finer unit than tenths if the decimal has none -/
  fine : min (-1) d.exponent ≤ w.numeral.magnitude.exponent

section

variable {w : WrittenNumeral} {cs cs' : List Char} {d d' : Decimal}

theorem IsFor.of_eq (isFor : w.IsFor cs d) (text : cs = cs') (value : d = d') : w.IsFor cs' d' :=
  text ▸ value ▸ isFor

theorem IsFor.congr (isFor : w.IsFor cs d) (same : d.toRat = d'.toRat)
    (fine : min (-1) d'.exponent ≤ d.exponent) : w.IsFor cs d' := by
  refine ⟨isFor.text, isFor.isInteger, isFor.value.trans same, ?_⟩
  have finer := isFor.fine
  omega

end

/-- Digits around a point, with or without an exponent. -/
theorem exists_point {a : DigitRow} (nonempty : a.chars ≠ []) (b : DigitRow)
    (exponent : Option WrittenExponent) :
    ∃ w : WrittenNumeral,
      w.IsFor (a.chars ++ '.' :: (b.chars ++ WrittenExponent.optionalText exponent))
        ⟨(a.append b).natural, (exponent.map (·.value)).getD 0 - b.chars.length⟩ := by
  refine ⟨⟨none, a, some b, exponent, .inl nonempty⟩, ?_⟩
  have magnitude : Numeral.magnitude ⟨false, a.values, some b.values, exponent.map (·.value)⟩ =
      ⟨(a.append b).natural, (exponent.map (·.value)).getD 0 - b.chars.length⟩ := by
    rw [Numeral.magnitude, ← DigitRow.ofDigits_values, DigitRow.values_append]
    dsimp only [Option.getD_some]
    rw [DigitRow.length_values]
  exact ⟨rfl, rfl, congrArg _ magnitude, magnitude ▸ min_le_right _ _⟩

/-- Digits without a point, with an exponent. -/
theorem exists_exponent {a : DigitRow} (nonempty : a.chars ≠ []) (e : WrittenExponent) :
    ∃ w : WrittenNumeral, w.IsFor (a.chars ++ e.text) ⟨a.natural, e.value⟩ := by
  refine ⟨⟨none, a, none, some e, .inl nonempty⟩, ?_⟩
  have magnitude : Numeral.magnitude ⟨false, a.values, none, some e.value⟩ =
      ⟨a.natural, e.value⟩ := by
    simp [Numeral.magnitude, DigitRow.ofDigits_values]
  exact ⟨rfl, rfl, congrArg _ magnitude, magnitude ▸ min_le_right _ _⟩

end WrittenNumeral

/-! ## Rendering -/

theorem Decimal.toRat_shift (n k : Nat) (e : Int) :
    (⟨n * 10 ^ k, e⟩ : Decimal).toRat = (⟨n, e + k⟩ : Decimal).toRat := by
  rw [toRat_eq, toRat_eq, zpow_add₀ (by norm_num), zpow_natCast]
  push_cast
  ring

namespace DigitRow

variable {row : DigitRow}

/-- The decimal of digits of which the leading one counts powers `10 ^ e`. -/
def decimal (row : DigitRow) (e : Int) : Decimal := ⟨row.natural, e - row.chars.length + 1⟩

theorem exists_positional (nonempty : row.chars ≠ []) (e : Int) :
    ∃ w : WrittenNumeral, w.IsFor (Decimal.positional true row.chars e) (row.decimal e) := by
  rw [Decimal.positional, decimal]
  split
  · next small =>
    -- All digits stand behind the point.
    obtain ⟨w, isFor⟩ := WrittenNumeral.exists_point (a := zeros 1) (by simp [zeros])
      ((zeros (-e - 1).toNat).append row) none
    rw [natural_append, natural_append, natural_zeros, natural_zeros, Nat.zero_mul, Nat.zero_mul,
      Nat.zero_add, Nat.zero_add] at isFor
    refine ⟨w, isFor.of_eq ?_ (congrArg _ ?_)⟩
    · simp [zeros, append, WrittenExponent.optionalText]
    · simp [zeros, append]
      omega
  · next large =>
    dsimp only
    split
    · next padded =>
      -- All digits stand in front of the point, with zeros up to it.
      obtain ⟨w, isFor⟩ := WrittenNumeral.exists_point
        (a := row.append (zeros (e.toNat + 1 - row.chars.length))) (by simp [append, nonempty])
        (zeros 1) none
      simp only [natural_append, natural_zeros, Nat.add_zero] at isFor
      rw [Nat.mul_assoc, ← Nat.pow_add] at isFor
      refine ⟨w, (isFor.of_eq ?_ rfl).congr ?_ ?_⟩
      · simp [zeros, append, WrittenExponent.optionalText]
      · rw [Decimal.toRat_shift]
        congr 2
        simp [zeros]
        omega
      · simp [zeros]
    · next inside =>
      -- The point stands among the digits.
      have parts := List.take_append_drop (e.toNat + 1) row.chars
      have digits := row.digits
      rw [← parts, List.forall_mem_append] at digits
      obtain ⟨w, isFor⟩ := WrittenNumeral.exists_point
        (a := ⟨row.chars.take (e.toNat + 1), digits.1⟩) (by simp [nonempty])
        ⟨row.chars.drop (e.toNat + 1), digits.2⟩ none
      rw [natural_congr (b := row) parts] at isFor
      refine ⟨w, isFor.of_eq ?_ (congrArg _ ?_)⟩
      · simp [WrittenExponent.optionalText]
      · simp
        omega

/-! ### Exponents -/

/-- An exponent in at least two digits. -/
theorem exists_exponentText (e : Int) :
    ∃ written : WrittenExponent, written.text = 'e' :: Decimal.exponentText e ∧
      written.value = e := by
  let row : DigitRow :=
    if (Nat.toDigits 10 e.natAbs).length < 2 then (zeros 1).append (ofNat e.natAbs)
    else ofNat e.natAbs
  have natural : row.natural = e.natAbs := by
    unfold row
    split
    · rw [natural_append, natural_zeros, natural_ofNat, Nat.zero_mul, Nat.zero_add]
    · rw [natural_ofNat]
  have chars : row.chars = if (Nat.toDigits 10 e.natAbs).length < 2 then
      '0' :: Nat.toDigits 10 e.natAbs else Nat.toDigits 10 e.natAbs := by
    unfold row
    split <;> rfl
  have nonempty : row.chars ≠ [] := by
    rw [chars]
    split <;> simp [Nat.toDigits_ne_nil]
  let written : WrittenExponent :=
    ⟨'e', .inl rfl, some (if e < 0 then .minus else .plus), row, nonempty⟩
  refine ⟨written, ?_, ?_⟩
  · rw [WrittenExponent.text, chars, Decimal.exponentText]
    unfold written
    split <;> rfl
  · rw [WrittenExponent.value, ofDigits_values, natural, Numeral.withSign]
    unfold written
    split
    · change -(e.natAbs : Int) = e
      omega
    · change (e.natAbs : Int) = e
      omega

theorem exists_scientific (nonempty : row.chars ≠ []) (e : Int) :
    ∃ w : WrittenNumeral, w.IsFor (Decimal.scientific row.chars e) (row.decimal e) := by
  obtain ⟨exponent, text, value⟩ := exists_exponentText e
  obtain ⟨c, rest, chars⟩ := List.exists_cons_of_ne_nil nonempty
  rw [decimal, chars]
  cases rest with
  | nil =>
    obtain ⟨w, isFor⟩ := WrittenNumeral.exists_exponent nonempty exponent
    refine ⟨w, isFor.of_eq ?_ (congrArg _ ?_)⟩
    · rw [chars, text]
      rfl
    · simp [value]
  | cons c' rest =>
    have digits := row.digits
    rw [chars, ← List.singleton_append, List.forall_mem_append] at digits
    obtain ⟨w, isFor⟩ := WrittenNumeral.exists_point (a := ⟨[c], digits.1⟩) (by simp)
      ⟨c' :: rest, digits.2⟩ (some exponent)
    rw [natural_congr (b := row) chars.symm] at isFor
    refine ⟨w, isFor.of_eq ?_ (congrArg _ ?_)⟩
    · rw [WrittenExponent.optionalText, Option.elim_some, text]
      rfl
    · simp [value]
      omega

end DigitRow

/-! ### Decimals -/

namespace Decimal

theorem exists_significantDigits (n : Nat) :
    ∃ zeros, Nat.toDigits 10 n = significantDigits n ++ List.replicate zeros '0' := by
  have zero : ∀ c ∈ (Nat.toDigits 10 n).reverse.takeWhile (· == '0'), c = '0' :=
    fun c member => by simpa using List.mem_takeWhile_imp member
  have trailing := List.eq_replicate_iff.mpr ⟨rfl, zero⟩
  refine ⟨((Nat.toDigits 10 n).reverse.takeWhile (· == '0')).length, ?_⟩
  calc Nat.toDigits 10 n
      = ((Nat.toDigits 10 n).reverse.takeWhile (· == '0') ++
          (Nat.toDigits 10 n).reverse.dropWhile (· == '0')).reverse := by
        rw [List.takeWhile_append_dropWhile, List.reverse_reverse]
    _ = significantDigits n ++ ((Nat.toDigits 10 n).reverse.takeWhile (· == '0')).reverse :=
        List.reverse_append
    _ = significantDigits n ++
          List.replicate ((Nat.toDigits 10 n).reverse.takeWhile (· == '0')).length '0' := by
        rw [← List.reverse_replicate, ← trailing]

/-- The digits of a natural without the zeros at their end. -/
theorem exists_significantRow {n : Nat} (nonzero : n ≠ 0) :
    ∃ (row : DigitRow) (zeros : Nat), row.chars = significantDigits n ∧ row.chars ≠ [] ∧
      n = row.natural * 10 ^ zeros ∧ (Nat.toDigits 10 n).length = row.chars.length + zeros := by
  obtain ⟨zeros, parts⟩ := exists_significantDigits n
  have digits : ∀ c ∈ significantDigits n, c.isDigit = true := by
    intro c member
    exact Text.isDigit_of_mem_toDigits (parts ▸ List.mem_append_left _ member)
  have natural : n = (DigitRow.plain (significantDigits n) digits).natural * 10 ^ zeros := by
    have joined := DigitRow.natural_congr (a := .ofNat n)
      (b := (DigitRow.plain (significantDigits n) digits).append (.zeros zeros)) parts
    rw [DigitRow.natural_ofNat, DigitRow.natural_append, DigitRow.natural_zeros] at joined
    simpa [DigitRow.zeros] using joined
  refine ⟨.plain (significantDigits n) digits, zeros, rfl, ?_, natural, ?_⟩
  · intro empty
    rw [DigitRow.natural_congr (b := .zeros 0) empty, DigitRow.natural_zeros, Nat.zero_mul]
      at natural
    exact nonzero natural
  · rw [parts, List.length_append, List.length_replicate]
    rfl

/-- The text of a decimal is a numeral of its value. -/
theorem exists_render {style : Notation} (pointZero : style.pointZero = true) {d : Decimal}
    (nonzero : d.digits ≠ 0) : ∃ w : WrittenNumeral, w.IsFor (render style d) d := by
  obtain ⟨row, zeros, chars, nonempty, natural, length⟩ := exists_significantRow nonzero
  -- Zeros that are left out at the end count towards the exponent.
  have exponent : d.exponent + (Nat.toDigits 10 d.digits).length - 1 - row.chars.length + 1 =
      d.exponent + zeros := by omega
  have same : (row.decimal (d.exponent + (Nat.toDigits 10 d.digits).length - 1)).toRat =
      d.toRat := by
    rw [DigitRow.decimal, exponent, ← toRat_shift, ← natural]
  have fine : min (-1) d.exponent ≤
      (row.decimal (d.exponent + (Nat.toDigits 10 d.digits).length - 1)).exponent := by
    rw [DigitRow.decimal, exponent]
    exact (min_le_right _ _).trans (Int.le_add_of_nonneg_right (Int.natCast_nonneg zeros))
  rw [render, pointZero, ← chars]
  split
  · exact (row.exists_positional nonempty _).imp fun w isFor => isFor.congr same fine
  · exact (row.exists_scientific nonempty _).imp fun w isFor => isFor.congr same fine

end Decimal

/-! ## Binary numbers -/

namespace Binary64

variable {negative : Bool} {mantissa : Nat} {exponent : Int}

/-- The text of a finite number without its sign. -/
theorem exists_unsigned (canonical : (finite negative mantissa exponent).IsCanonical) :
    ∃ w : WrittenNumeral, ∃ d : Decimal,
      w.IsFor (if mantissa = 0 then Decimal.positional fullNotation.pointZero ['0'] 0
        else Decimal.render fullNotation (shortest mantissa exponent)) d ∧
      -340 ≤ d.exponent ∧
      if mantissa = 0 then d.toRat = 0 else RoundsTo mantissa exponent d.toRat := by
  by_cases zero : mantissa = 0
  · obtain ⟨w, isFor⟩ := (DigitRow.zeros 1).exists_positional (by simp [DigitRow.zeros]) 0
    refine ⟨w, _, by rw [if_pos zero]; exact isFor, ?_, ?_⟩
    · simp [DigitRow.decimal, DigitRow.zeros]
    · rw [if_pos zero, Decimal.toRat_eq_zero_iff]
      exact DigitRow.natural_zeros 1
  · have near := roundsTo_shortest zero canonical
    have digits := mt Decimal.toRat_eq_zero_iff.mpr (near.pos zero).ne'
    obtain ⟨w, isFor⟩ := Decimal.exists_render (rfl : fullNotation.pointZero = true) digits
    refine ⟨w, _, by rw [if_neg zero]; exact isFor, le_exponent_shortest zero canonical, ?_⟩
    rwa [if_neg zero]

/-- The text of a finite number is a numeral that is read as the number. -/
theorem exists_written {x : Binary64} (isFinite : x.isFinite = true) (canonical : x.IsCanonical) :
    ∃ w : WrittenNumeral, x.text = String.ofList w.text ∧ w.numeral.isInteger = false ∧
      w.numeral.toBinary64 = x := by
  cases x with
  | nan => cases isFinite
  | infinity negative => cases isFinite
  | finite negative mantissa exponent =>
    obtain ⟨w, d, isFor, fine, value⟩ := exists_unsigned canonical
    refine ⟨w.withSign (if negative then some .minus else none), ?_, isFor.isInteger, ?_⟩
    · rw [text, textWith, ← isFor.text]
      cases negative <;> rfl
    · have sign : (w.withSign (if negative then some .minus else none)).numeral.negative =
          negative := by
        cases negative <;> rfl
      have finer := isFor.fine
      rw [← isFor.value] at value
      rw [Numeral.toBinary64, sign]
      change w.numeral.magnitude.toBinary64 negative = _
      split at value
      · next zero =>
        have least := canonical.2.2.2.resolve_left (by rw [zero]; decide)
        rw [Decimal.toBinary64, if_pos (Decimal.toRat_eq_zero_iff.mp value), zero, least]
        rfl
      · next nonzero =>
        exact Decimal.toBinary64_of_roundsTo nonzero canonical value (by omega)

end Binary64

/-! ## Numbers -/

namespace Number

/-- The form of the number is the one that rounding gives. -/
def IsCanonical : Number → Prop
  | .int _ => True
  | .float x => x.IsCanonical

instance : DecidablePred IsCanonical
  | .int _ => .isTrue trivial
  | .float x => inferInstanceAs (Decidable x.IsCanonical)

/-- The number that a numeral is, whole numbers being of any size. -/
def ofNumeral (n : Numeral) : Number :=
  if n.isInteger then .int n.toInt else .float n.toBinary64

theorem exists_written_int (n : Int) :
    ∃ w : WrittenNumeral, (Number.int n).text = String.ofList w.text ∧ w.numeral.isInteger = true ∧
      w.numeral.toInt = n ∧ w.whole = .ofNat n.natAbs := by
  have nonempty (k : Nat) : (DigitRow.ofNat k).chars ≠ [] := Nat.toDigits_ne_nil
  have denoted (k : Nat) : Numeral.ofDigits (DigitRow.ofNat k).values = k := by
    rw [DigitRow.ofDigits_values, DigitRow.natural_ofNat]
  cases n with
  | ofNat k =>
    refine ⟨⟨none, .ofNat k, none, none, .inl (nonempty k)⟩, ?_, rfl, ?_, rfl⟩
    · rw [← String.toList_inj, String.toList_ofList]
      exact (toList_text_natural k).trans (List.append_nil _).symm
    · exact congrArg Int.ofNat (denoted k)
  | negSucc k =>
    refine ⟨⟨some .minus, .ofNat (k + 1), none, none, .inl (nonempty _)⟩, ?_, rfl, ?_, rfl⟩
    · rw [← String.toList_inj, toList_text_negSucc, String.toList_ofList]
      exact congrArg (List.cons '-') (List.append_nil _).symm
    · exact congrArg (fun n : Nat => -(n : Int)) (denoted (k + 1))

/-- The text of a finite number is a numeral that is read as the number. -/
theorem exists_written {x : Number} (isFinite : x.isFinite = true) (canonical : x.IsCanonical) :
    ∃ w : WrittenNumeral, x.text = String.ofList w.text ∧ ofNumeral w.numeral = x := by
  cases x with
  | int n =>
    obtain ⟨w, text, isInteger, value, -⟩ := exists_written_int n
    exact ⟨w, text, by rw [ofNumeral, if_pos isInteger, value]⟩
  | float x =>
    obtain ⟨w, text, isInteger, value⟩ := Binary64.exists_written isFinite canonical
    exact ⟨w, text, by rw [ofNumeral, isInteger, if_neg Bool.false_ne_true, value]⟩

/-- Distinct numbers have distinct texts. -/
theorem text_inj {x y : Number} (xFinite : x.isFinite = true) (xCanonical : x.IsCanonical)
    (yFinite : y.isFinite = true) (yCanonical : y.IsCanonical) : x.text = y.text ↔ x = y := by
  refine ⟨fun same => ?_, congrArg _⟩
  obtain ⟨w, text, value⟩ := exists_written xFinite xCanonical
  obtain ⟨w', text', value'⟩ := exists_written yFinite yCanonical
  rw [text, text', String.ofList_inj] at same
  have numerals : w.numeral = w'.numeral := by
    rw [← Option.some_inj, ← w.read?_text, same, w'.read?_text]
  rw [← value, numerals, value']

end Number

end FormulaEditor
