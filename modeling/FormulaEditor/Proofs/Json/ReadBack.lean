import FormulaEditor.Json.Compact
import FormulaEditor.Proofs.Decimal.Notation
import FormulaEditor.Proofs.Text.RawText

/-! # Reading what has been written

The compact form of a value is read back as the value, whatever stands behind it.  For numbers this
is taken for granted.
-/

namespace FormulaEditor.Json

/-- Reading gives an item and leaves the rest. -/
def Read.Gives {α : Type} {s : List Glyph} (r : Read α s) (item : α) (rest : List Glyph) : Prop :=
  -- The proof that the rest is shorter is left out, so that two texts can be compared.
  r.map (fun reading => (reading.item, reading.rest)) = .ok (item, rest)

theorem Read.gives_iff {α : Type} {s : List Glyph} {r : Read α s} {item : α} {rest : List Glyph} :
    r.Gives item rest ↔ ∃ shorter, r = .ok ⟨item, rest, shorter⟩ := by
  rw [Gives]
  constructor
  · intro given
    cases r with
    | error e => cases given
    | ok reading =>
      cases given
      exact ⟨reading.shorter, rfl⟩
  · rintro ⟨shorter, rfl⟩
    rfl

/-! ## Strings -/

theorem hexDigit?_hexDigit {n : Nat} (small : n < 16) :
    Text.hexDigit? (Text.hexDigit n) = some n := by
  have all : ∀ n < 16, Text.hexDigit? (Text.hexDigit n) = some n := by decide
  exact all n small

/-- Four digits are a unit when something follows them. -/
theorem hexUnit?_hexDigits {n : Nat} (small : n < 0x10000) (g : Glyph) (rest : List Glyph) :
    hexUnit? ((Text.hexDigits 4 n).map .char ++ g :: rest) = some n := by
  have digit (k : Nat) : Text.hexDigit? (Text.hexDigit (k % 16)) = some (k % 16) :=
    hexDigit?_hexDigit (by omega)
  simp [hexUnit?, Text.hexDigits, digit]
  omega

section Strings

variable {s more rest : List Glyph}

theorem stringGlyphs_plain (given : (stringGlyphs s).Gives more rest) {g : Glyph}
    (quote : g ≠ .char '"') (backslash : g ≠ .char '\\') (shown : ¬ g.number < 0x20) :
    (stringGlyphs (g :: s)).Gives (g :: more) rest := by
  obtain ⟨shorter, read⟩ := Read.gives_iff.mp given
  rw [stringGlyphs.eq_7 g s quote (fun same => absurd same backslash)
    (fun _ same => absurd same backslash) (fun _ _ same => absurd same backslash), if_neg shown,
    read]
  rfl

theorem stringGlyphs_escape (given : (stringGlyphs s).Gives more rest) {c image : Char}
    (escape : escaped? c = some image) :
    (stringGlyphs (.char '\\' :: .char c :: s)).Gives (.char image :: more) rest := by
  obtain ⟨shorter, read⟩ := Read.gives_iff.mp given
  have other : Glyph.char c = .char 'u' → False := by
    rintro ⟨⟩
    cases escape
  rw [stringGlyphs.eq_5 s c other, escape, read]
  rfl

theorem stringGlyphs_unit (given : (stringGlyphs s).Gives more rest) {c : Char}
    (small : c.toNat < 0xD800) :
    (stringGlyphs (.char '\\' :: .char 'u' :: ((Text.hexDigits 4 c.toNat).map .char ++ s))).Gives
      (.char c :: more) rest := by
  obtain ⟨shorter, read⟩ := Read.gives_iff.mp given
  have unit : hexUnit? ((Text.hexDigits 4 c.toNat).map .char ++ s) = some c.toNat := by
    cases s with
    | nil => cases shorter
    | cons g rest => exact hexUnit?_hexDigits (by omega) g rest
  have behind : stringGlyphs (((Text.hexDigits 4 c.toNat).map Glyph.char ++ s).drop 4) =
      .ok ⟨more, rest, shorter⟩ := read
  have glyph : Glyph.ofNumber c.toNat = .char c := by
    have noHalf : Half.ofNumber? c.toNat = none := by
      rw [Half.ofNumber?, dif_neg (by omega)]
    rw [Glyph.ofNumber, noHalf, Char.ofNat_toNat]
  -- A character is no half, so it is not joined with what follows.
  have alone (joins : Bool) : consUnit (.char c) joins more = .char c :: more := by
    cases more <;> simp [consUnit, Text.joined?]
  rw [stringGlyphs.eq_4, unit]
  simp only [behind, glyph, alone]
  rfl

/-- A glyph of a string stands for itself, or is given by one character behind a backslash, or by
its number. -/
theorem writeGlyph_cases (g : Glyph) :
    (g ≠ .char '"' ∧ g ≠ .char '\\' ∧ ¬ g.number < 0x20 ∧ writeGlyph g = [g]) ∨
      (∃ c image, escaped? c = some image ∧ g = .char image ∧
        writeGlyph g = [.char '\\', .char c]) ∨
      ∃ c, c.toNat < 0x20 ∧ g = .char c ∧
        writeGlyph g = .char '\\' :: .char 'u' :: (Text.hexDigits 4 c.toNat).map .char := by
  cases g with
  | half h =>
    have shown : ¬ (Glyph.half h).number < 0x20 := by
      simp only [Glyph.number, Half.number]
      omega
    exact .inl ⟨by simp, by simp, shown, rfl⟩
  | char c =>
    rw [writeGlyph]
    split
    · next special =>
      refine .inr (.inl ⟨c, c, ?_, rfl, rfl⟩)
      rcases special with rfl | rfl <;> rfl
    next ordinary =>
    obtain ⟨quote, backslash⟩ := not_or.mp ordinary
    split
    · next same => exact .inr (.inl ⟨'n', c, same ▸ rfl, rfl, rfl⟩)
    split
    · next same => exact .inr (.inl ⟨'r', c, same ▸ rfl, rfl, rfl⟩)
    split
    · next same => exact .inr (.inl ⟨'t', c, same ▸ rfl, rfl, rfl⟩)
    split
    · next same => exact .inr (.inl ⟨'b', c, same ▸ rfl, rfl, rfl⟩)
    split
    · next same => exact .inr (.inl ⟨'f', c, same ▸ rfl, rfl, rfl⟩)
    split
    · next control => exact .inr (.inr ⟨c, control, rfl, rfl⟩)
    · next shown => exact .inl ⟨by simpa using quote, by simpa using backslash, shown, rfl⟩

theorem stringGlyphs_writeGlyph (given : (stringGlyphs s).Gives more rest) (g : Glyph) :
    (stringGlyphs (writeGlyph g ++ s)).Gives (g :: more) rest := by
  rcases writeGlyph_cases g with
    ⟨quote, backslash, shown, written⟩ | ⟨c, image, escape, rfl, written⟩ | ⟨c, small, rfl, written⟩
  · rw [written]
    exact stringGlyphs_plain given quote backslash shown
  · rw [written]
    exact stringGlyphs_escape given escape
  · rw [written]
    exact stringGlyphs_unit given (by omega)

/-- A written string is read back up to its closing quote. -/
theorem string_write (s : RawText) (rest : List Glyph) :
    (string (s.glyphs.flatMap writeGlyph ++ .char '"' :: rest)).Gives s rest := by
  have closing : (stringGlyphs (.char '"' :: rest)).Gives [] rest := by
    rw [stringGlyphs]
    rfl
  have all (gs : List Glyph) :
      (stringGlyphs (gs.flatMap writeGlyph ++ .char '"' :: rest)).Gives gs rest := by
    induction gs with
    | nil => exact closing
    | cons g gs ih =>
      rw [List.flatMap_cons, List.append_assoc]
      exact stringGlyphs_writeGlyph ih g
  obtain ⟨shorter, read⟩ := Read.gives_iff.mp (all s.glyphs)
  simp only [Read.Gives, string, read, Except.map, RawText.ofGlyphs_glyphs]

end Strings

/-! ## What stands behind a value -/

/-- What follows is nothing, a comma, or the end of an array or of an object. -/
def Delimits (rest : List Glyph) : Prop :=
  ∀ g ∈ rest.head?, g = .char ',' ∨ g = .char ']' ∨ g = .char '}'

theorem delimits_nil : Delimits [] := nofun

theorem delimits_comma (rest : List Glyph) : Delimits (.char ',' :: rest) := by
  simp [Delimits]

theorem delimits_bracket (rest : List Glyph) : Delimits (.char ']' :: rest) := by
  simp [Delimits]

theorem delimits_brace (rest : List Glyph) : Delimits (.char '}' :: rest) := by
  simp [Delimits]

/-- With room for so many containers in one another, the value is read back from its compact
form. -/
def ReadsBack (room : Nat) (v : Json) : Prop :=
  ∀ rest, Delimits rest → (value room (v.write ++ rest)).Gives v rest

variable {room : Nat}

theorem readsBack_str (s : RawText) : ReadsBack room (.str s) := by
  intro rest _
  obtain ⟨shorter, read⟩ := Read.gives_iff.mp (string_write s rest)
  have written : (Json.str s).write ++ rest =
      .char '"' :: (s.glyphs.flatMap writeGlyph ++ .char '"' :: rest) := by
    simp [write, writeString]
  rw [written, value, read]
  rfl

theorem readsBack_null : ReadsBack room .null := by
  intro rest _
  cases room <;> rfl

/-! ## Numbers -/

/-- The number is read back from its text, which is what is taken for granted. -/
def NumberReadsBack (n : Number) : Prop := read n.text = .ok (.number n)

theorem numeralChars_append {cs : List Char} (numeral : AreNumeral cs)
    {rest : List Glyph} (delimits : Delimits rest) : numeralChars (cs.map .char ++ rest) = cs := by
  induction cs with
  | nil =>
    cases rest with
    | nil => rfl
    | cons g rest =>
      rcases delimits g rfl with rfl | rfl | rfl <;> rfl
  | cons c cs ih =>
    obtain ⟨first, others⟩ := List.forall_mem_cons.mp numeral
    simp [numeralChars, first, ih others]

/-- No word is in front of a number: each has a letter among its first two glyphs that no number
has. -/
theorem find?_words_append {cs : List Char} (nonempty : cs ≠ [])
    (numeral : AreNumeral cs) {rest : List Glyph} (delimits : Delimits rest) :
    words.find? (fun w => w.1.isPrefixOf (cs.map .char ++ rest)) = none := by
  obtain ⟨c, cs, rfl⟩ := List.exists_cons_of_ne_nil nonempty
  obtain ⟨first, others⟩ := List.forall_mem_cons.mp numeral
  have second : ∀ g ∈ (cs.map Glyph.char ++ rest).head?, .char 'I' ≠ g := by
    rintro _ head rfl
    cases cs with
    | nil => simpa using delimits _ head
    | cons c' cs =>
      obtain rfl : c' = 'I' := by simpa using head
      exact absurd (others _ List.mem_cons_self) (by decide)
  have letters : 'n' ≠ c ∧ 't' ≠ c ∧ 'f' ≠ c ∧ 'N' ≠ c ∧ 'I' ≠ c := by
    refine ⟨?_, ?_, ?_, ?_, ?_⟩ <;>
    · rintro rfl
      exact absurd first (by decide)
  rw [List.map_cons, List.cons_append]
  generalize cs.map Glyph.char ++ rest = behind at second
  cases behind with
  | nil => simp [words, RawText.glyphs]
  | cons g behind => simp [words, RawText.glyphs, letters, second g rfl]

theorem atom_append {cs : List Char} (nonempty : cs ≠ [])
    (numeral : AreNumeral cs) {rest : List Glyph} (delimits : Delimits rest)
    {item : Json} {taken : Nat} (number : atom (cs.map .char) = .ok (item, taken)) :
    atom (cs.map .char ++ rest) = .ok (item, taken) ∧ taken ≤ cs.length := by
  have unworded := find?_words_append nonempty numeral delimits_nil
  have front := numeralChars_append numeral delimits_nil
  rw [List.append_nil] at unworded front
  rw [atom, unworded] at number
  rw [atom, find?_words_append nonempty numeral delimits]
  simp only [front] at number
  simp only [numeralChars_append numeral delimits]
  cases found : numeral? cs with
  | none => simp [found] at number
  | some result =>
    rw [found] at number
    refine ⟨number, ?_⟩
    cases denoted : ofNumeral result.1 with
    | error e => simp [denoted, Except.map] at number
    | ok v =>
      obtain ⟨-, rfl⟩ : v = item ∧ cs.length - result.2.length = taken := by
        simpa [denoted, Except.map] using number
      omega

theorem value_of_atom {c : Char} (numeral : isNumeralChar c = true) (rest : List Glyph) :
    value room (.char c :: rest) =
      match atom (.char c :: rest) with
      | .error e => .error e
      | .ok (item, taken) =>
        .ok ⟨item, rest.drop (taken - 1), Nat.lt_succ_of_le (length_drop_le _ rest)⟩ := by
  apply value.eq_6
  all_goals
    rintro ⟨⟩
    exact absurd numeral (by decide)

theorem not_isSpace_of_numeral {c : Char} (numeral : isNumeralChar c = true) :
    isSpace (.char c) = false := by
  rw [Bool.eq_false_iff]
  intro space
  have blanks : ((c = ' ' ∨ c = '\t') ∨ c = '\n') ∨ c = '\r' := by simpa [isSpace] using space
  rcases blanks with ((rfl | rfl) | rfl) | rfl <;> exact absurd numeral (by decide)

/-- A whole text is read just if nothing but blanks is left behind its value. -/
theorem readGlyphs_eq_ok_iff {s : List Glyph} {v : Json} :
    readGlyphs s = .ok v ↔
      ∃ rest, (value nestingLimit (skip s)).Gives v rest ∧ skip rest = [] := by
  rw [readGlyphs]
  cases read : value nestingLimit (skip s) with
  | error e => simp [Read.Gives, Except.map]
  | ok reading =>
    obtain ⟨item, rest, shorter⟩ := reading
    cases left : skip rest with
    | nil => simp [Read.Gives, Except.map, left]
    | cons g more =>
      simp [Read.Gives, Except.map, left]

/-- A finite number that is read back from its text is so wherever the text stands. -/
theorem readsBack_number {n : Number} (finite : n.isFinite = true) (given : NumberReadsBack n) :
    ReadsBack room (.number n) := by
  have numeral := Number.areNumeral_text finite
  intro rest delimits
  rw [NumberReadsBack, read, RawText.glyphs] at given
  rw [write, plain]
  generalize n.text.toList = cs at numeral given
  split at given
  · cases given
  obtain ⟨behind, value, left⟩ := readGlyphs_eq_ok_iff.mp given
  cases cs with
  | nil => cases value
  | cons c cs =>
    obtain ⟨start, others⟩ := List.forall_mem_cons.mp numeral
    have skipped : skip ((c :: cs).map .char) = .char c :: cs.map .char := by
      simp [skip, not_isSpace_of_numeral start]
    obtain ⟨shorter, value⟩ := Read.gives_iff.mp (skipped ▸ value)
    rw [value_of_atom start] at value
    cases number : atom (.char c :: cs.map .char) with
    | error e => simp [number] at value
    | ok result =>
      obtain ⟨item, taken⟩ := result
      obtain ⟨rfl, rfl⟩ : item = .number n ∧ (cs.map Glyph.char).drop (taken - 1) = behind := by
        simpa [number] using value
      -- All of the text has been taken, since what is left of it would be out of place.
      have whole : (cs.map Glyph.char).drop (taken - 1) = [] := by
        cases kept : (cs.map Glyph.char).drop (taken - 1) with
        | nil => rfl
        | cons g more =>
          obtain ⟨c', member, rfl⟩ : ∃ c' ∈ cs, Glyph.char c' = g :=
            List.mem_map.mp (List.mem_of_mem_drop (kept ▸ List.mem_cons_self))
          simp [kept, skip, not_isSpace_of_numeral (others c' member)] at left
      obtain ⟨appended, bound⟩ := atom_append (List.cons_ne_nil c cs) numeral delimits number
      have length : (cs.map Glyph.char).length = taken - 1 := by
        rw [List.drop_eq_nil_iff] at whole
        simp only [List.length_map, List.length_cons] at whole bound ⊢
        omega
      rw [List.map_cons, List.cons_append] at appended ⊢
      rw [value_of_atom start, appended]
      simp only [Read.Gives, Except.map, ← length, List.drop_left]

/-! ## Arrays and objects -/

theorem enclose_append (opening closing : Char) (items : List (List Glyph)) (rest : List Glyph) :
    enclose opening closing items ++ rest =
      .char opening :: ([.char ','].intercalate items ++ .char closing :: rest) := by
  simp [enclose]

theorem intercalate_append (first second : List Glyph) (others : List (List Glyph))
    (rest : List Glyph) :
    [Glyph.char ','].intercalate (first :: second :: others) ++ rest =
      first ++ .char ',' :: ([.char ','].intercalate (second :: others) ++ rest) := by
  rw [List.intercalate_cons_cons, List.append_assoc, List.append_assoc]
  rfl

theorem write_arr (items : List Json) :
    (Json.arr items).write = enclose '[' ']' (items.map write) := by
  have each : writeItems items = items.map write := by
    induction items with
    | nil => rfl
    | cons item rest ih => rw [writeItems, ih, List.map_cons]
  rw [write, each]

/-- A member as it is written. -/
def writeMember (m : RawText × Json) : List Glyph := writeString m.1 ++ .char ':' :: m.2.write

theorem writeMember_append (m : RawText × Json) (rest : List Glyph) :
    writeMember m ++ rest = .char '"' ::
      (m.1.glyphs.flatMap writeGlyph ++ .char '"' :: .char ':' :: (m.2.write ++ rest)) := by
  simp [writeMember, writeString]

theorem write_obj (ms : List (RawText × Json)) :
    (Json.obj ms).write = enclose '{' '}' (ms.map writeMember) := by
  have each : writeMembers ms = ms.map writeMember := by
    induction ms with
    | nil => rfl
    | cons m rest ih => rw [writeMembers, ih, List.map_cons, writeMember]
  rw [write, each]

theorem not_gives_of_atom {c : Char} {behind rest : List Glyph} {v : Json} {e : ReadError}
    (other : c ≠ '"' ∧ c ≠ '[' ∧ c ≠ '{') (unread : atom (.char c :: behind) = .error e) :
    ¬ (value room (.char c :: behind)).Gives v rest := by
  obtain ⟨quote, bracket, brace⟩ := other
  rw [value.eq_6 room (.char c) behind (by simpa using quote) (by simpa using bracket)
    (by simpa using brace), unread]
  intro given
  cases given

/-- No value starts with a blank or with the end of an array. -/
theorem value_starts {s rest : List Glyph} {v : Json} (given : (value room s).Gives v rest) :
    ∃ g behind, s = g :: behind ∧ isSpace g = false ∧ g ≠ .char ']' := by
  cases s with
  | nil =>
    rw [value.eq_7] at given
    cases given
  | cons g behind =>
    have others : ∀ c ∈ [' ', '\t', '\n', '\r', ']'], g ≠ .char c := by
      simp only [List.forall_mem_cons, List.not_mem_nil, false_implies, implies_true, and_true]
      refine ⟨?_, ?_, ?_, ?_, ?_⟩ <;>
      · rintro rfl
        exact not_gives_of_atom (by decide) rfl given
    refine ⟨g, behind, rfl, ?_, others _ (by decide)⟩
    cases g with
    | half h => rfl
    | char c =>
      simp at others
      simp [isSpace, others]

theorem Reading.behind_gives {s rest : List Glyph} {r : Read Json s} {v : Json}
    (given : r.Gives v rest) (first : Glyph) : (Reading.behind first r).Gives v rest := by
  obtain ⟨shorter, rfl⟩ := Read.gives_iff.mp given
  rfl

theorem skip_of_value {s rest : List Glyph} {v : Json} (given : (value room s).Gives v rest) :
    skip s = s := by
  obtain ⟨g, behind, rfl, solid, -⟩ := value_starts given
  simp [skip, solid]

section Items

variable {inner : Reader} {s rest : List Glyph} {v : Json} {found : List Json}

theorem items_last (given : (inner s).Gives v (.char ']' :: rest)) :
    (items inner s).Gives [v] rest := by
  obtain ⟨shorter, read⟩ := Read.gives_iff.mp given
  have closing : skip (.char ']' :: rest) = .char ']' :: rest := rfl
  rw [items, read, Read.Gives]
  simp only
  -- The glyph behind the item is known, so only one of the branches can be taken.
  split
  · next behind found =>
    cases closing.symm.trans found
    rfl
  · next behind found => cases closing.symm.trans found
  · next last _ => exact absurd closing (last rest)

theorem items_more {behind : List Glyph} (given : (inner s).Gives v (.char ',' :: behind))
    (skipped : skip behind = behind) (later : (items inner behind).Gives found rest) :
    (items inner s).Gives (v :: found) rest := by
  obtain ⟨shorter, read⟩ := Read.gives_iff.mp given
  have comma : skip (.char ',' :: behind) = .char ',' :: behind := rfl
  obtain ⟨shorter', later⟩ := Read.gives_iff.mp (skipped.symm ▸ later)
  rw [items, read, Read.Gives]
  simp only
  split
  · next behind found => cases comma.symm.trans found
  · next behind' found =>
    cases comma.symm.trans found
    simp only [later]
    rfl
  · next _ more => exact absurd comma (more behind)

theorem value_of_items (given : (items inner s).Gives found rest) :
    ∃ v behind, (inner s).Gives v behind := by
  obtain ⟨shorter, read⟩ := Read.gives_iff.mp given
  rw [items] at read
  cases first : inner s with
  | error e => simp [first] at read
  | ok reading => exact ⟨reading.item, reading.rest, rfl⟩

theorem array_of_items (given : (items (value room) s).Gives found rest) :
    (array (value room) s).Gives (.arr found) rest := by
  obtain ⟨v, behind, first⟩ := value_of_items given
  obtain ⟨g, more, rfl, -, inside⟩ := value_starts first
  have skipped := skip_of_value first
  obtain ⟨shorter, given⟩ := Read.gives_iff.mp (skipped.symm ▸ given)
  rw [array, Read.Gives]
  split
  · next behind' closed =>
    cases skipped.symm.trans closed
    exact absurd rfl inside
  · simp only [given]
    rfl

end Items

theorem items_write {values : List Json} (nonempty : values ≠ [])
    (readsBack : ∀ v ∈ values, ReadsBack room v) (rest : List Glyph) :
    (items (value room) ([.char ','].intercalate (values.map write) ++ .char ']' :: rest)).Gives
      values rest := by
  induction values with
  | nil => exact absurd rfl nonempty
  | cons v others ih =>
    rw [List.forall_mem_cons] at readsBack
    cases others with
    | nil =>
      rw [List.map_singleton, List.intercalate_singleton]
      exact items_last (readsBack.1 _ (delimits_bracket rest))
    | cons w others =>
      have later := ih (List.cons_ne_nil w others) readsBack.2
      obtain ⟨v', behind, next⟩ := value_of_items later
      rw [List.map_cons, List.map_cons, intercalate_append]
      exact items_more (readsBack.1 _ (delimits_comma _)) (skip_of_value next) later

theorem readsBack_arr {values : List Json} (readsBack : ∀ v ∈ values, ReadsBack room v) :
    ReadsBack (room + 1) (.arr values) := by
  intro rest _
  have array : (array (value room)
      ([.char ','].intercalate (values.map write) ++ .char ']' :: rest)).Gives (.arr values)
        rest := by
    by_cases nonempty : values = []
    · rw [nonempty]
      rfl
    · exact array_of_items (items_write nonempty readsBack rest)
  rw [write_arr, enclose_append, value]
  exact Reading.behind_gives array (.char '[')

section Members

variable {inner : Reader} {s behind rest : List Glyph} {name : RawText} {v : Json}
  {found : List (RawText × Json)}

theorem members_last (named : (string s).Gives name (.char ':' :: behind))
    (skipped : skip behind = behind) (given : (inner behind).Gives v (.char '}' :: rest)) :
    (members inner (.char '"' :: s)).Gives [(name, v)] rest := by
  obtain ⟨shorter, named⟩ := Read.gives_iff.mp named
  obtain ⟨shorter', given⟩ := Read.gives_iff.mp (skipped.symm ▸ given)
  have colon : skip (.char ':' :: behind) = .char ':' :: behind := rfl
  have closing : skip (.char '}' :: rest) = .char '}' :: rest := rfl
  rw [members, named, Read.Gives]
  simp only
  split
  · next behind' found =>
    cases colon.symm.trans found
    simp only [given]
    split
    · next behind found =>
      cases closing.symm.trans found
      rfl
    · next behind found => cases closing.symm.trans found
    · next last _ => exact absurd closing (last rest)
  · next other => exact absurd colon (other behind)

/-- Members start with the quote of a name. -/
theorem quote_of_members (given : (members inner s).Gives found rest) :
    ∃ more, s = .char '"' :: more := by
  rw [members.eq_def] at given
  split at given
  · next more => exact ⟨more, rfl⟩
  · cases given

theorem members_more {behind' : List Glyph} (named : (string s).Gives name (.char ':' :: behind))
    (skipped : skip behind = behind) (given : (inner behind).Gives v (.char ',' :: behind'))
    (later : (members inner behind').Gives found rest) :
    (members inner (.char '"' :: s)).Gives ((name, v) :: found) rest := by
  obtain ⟨more, rfl⟩ := quote_of_members later
  obtain ⟨shorter, named⟩ := Read.gives_iff.mp named
  obtain ⟨shorter', given⟩ := Read.gives_iff.mp (skipped.symm ▸ given)
  have quote : skip (.char '"' :: more) = .char '"' :: more := rfl
  obtain ⟨shorter'', later⟩ := Read.gives_iff.mp (quote.symm ▸ later)
  have colon : skip (.char ':' :: behind) = .char ':' :: behind := rfl
  have comma : skip (.char ',' :: .char '"' :: more) = .char ',' :: .char '"' :: more := rfl
  rw [members, named, Read.Gives]
  simp only
  split
  · next behind' found =>
    cases colon.symm.trans found
    simp only [given]
    split
    · next behind found => cases comma.symm.trans found
    · next behind found =>
      cases comma.symm.trans found
      simp only [later]
      rfl
    · next _ last => exact absurd comma (last _)
  · next other => exact absurd colon (other behind)

theorem object_of_members (given : (members inner s).Gives found rest) :
    (object inner s).Gives (.obj (distinct found)) rest := by
  obtain ⟨more, rfl⟩ := quote_of_members given
  have quote : skip (.char '"' :: more) = .char '"' :: more := rfl
  obtain ⟨shorter, given⟩ := Read.gives_iff.mp (quote.symm ▸ given)
  rw [object, Read.Gives]
  split
  · next behind found => cases quote.symm.trans found
  · simp only [given]
    rfl

end Members

theorem members_write {ms : List (RawText × Json)} (nonempty : ms ≠ [])
    (readsBack : ∀ m ∈ ms, ReadsBack room m.2) (rest : List Glyph) :
    (members (value room) ([.char ','].intercalate (ms.map writeMember) ++ .char '}' :: rest)).Gives
      ms rest := by
  induction ms with
  | nil => exact absurd rfl nonempty
  | cons m others ih =>
    rw [List.forall_mem_cons] at readsBack
    cases others with
    | nil =>
      have given := readsBack.1 _ (delimits_brace rest)
      rw [List.map_singleton, List.intercalate_singleton, writeMember_append]
      exact members_last (string_write m.1 _) (skip_of_value given) given
    | cons m' others =>
      have later := ih (List.cons_ne_nil m' others) readsBack.2
      have given := readsBack.1 _ (delimits_comma
        ([.char ','].intercalate ((m' :: others).map writeMember) ++ .char '}' :: rest))
      rw [List.map_cons, List.map_cons, intercalate_append, writeMember_append]
      exact members_more (string_write m.1 _) (skip_of_value given) given later

/-- An object whose names are different is read back when its members are. -/
theorem readsBack_obj {ms : List (RawText × Json)} (named : distinct ms = ms)
    (readsBack : ∀ m ∈ ms, ReadsBack room m.2) : ReadsBack (room + 1) (.obj ms) := by
  intro rest _
  have object : (object (value room)
      ([.char ','].intercalate (ms.map writeMember) ++ .char '}' :: rest)).Gives (.obj ms)
        rest := by
    by_cases nonempty : ms = []
    · rw [nonempty]
      rfl
    · have read := object_of_members (members_write nonempty readsBack rest)
      rwa [named] at read
  rw [write_obj, enclose_append, value]
  exact Reading.behind_gives object (.char '{')

theorem readGlyphs_write {v : Json} (readsBack : ReadsBack nestingLimit v) :
    readGlyphs v.write = .ok v := by
  have given := readsBack [] delimits_nil
  rw [List.append_nil] at given
  exact readGlyphs_eq_ok_iff.mpr ⟨[], (skip_of_value given).symm ▸ given, rfl⟩

end FormulaEditor.Json
