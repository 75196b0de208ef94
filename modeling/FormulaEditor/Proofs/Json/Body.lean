import FormulaEditor.Json.Body
import FormulaEditor.Proofs.Json.ReadBack

/-! # Objects as bodies

An object that is not torn can be sent: its compact form is a text, which as a body is read as the
object again.
-/

namespace FormulaEditor.Json

/-- No glyph is a half. -/
def Unbroken (gs : List Glyph) : Prop := ∀ g ∈ gs, RawText.isHalf g = false

theorem unbroken_map_char (cs : List Char) : Unbroken (cs.map .char) := by
  intro g member
  obtain ⟨c, -, rfl⟩ := List.mem_map.mp member
  rfl

theorem Unbroken.append {gs more : List Glyph} (front : Unbroken gs) (back : Unbroken more) :
    Unbroken (gs ++ more) :=
  List.forall_mem_append.mpr ⟨front, back⟩

theorem Unbroken.cons {gs : List Glyph} (c : Char) (others : Unbroken gs) :
    Unbroken (.char c :: gs) :=
  List.forall_mem_cons.mpr ⟨rfl, others⟩

theorem Unbroken.exists_map_char {gs : List Glyph} (unbroken : Unbroken gs) :
    ∃ cs : List Char, gs = cs.map .char := by
  induction gs with
  | nil => exact ⟨[], rfl⟩
  | cons g rest ih =>
    obtain ⟨first, others⟩ := List.forall_mem_cons.mp unbroken
    obtain ⟨cs, rfl⟩ := ih others
    cases g with
    | char c => exact ⟨c :: cs, rfl⟩
    | half h => cases first

theorem unbroken_writeString {s : RawText} (untorn : s.tear? = none) :
    Unbroken (writeString s) := by
  obtain ⟨t, rfl⟩ := RawText.tear?_eq_none_iff.mp untorn
  rw [writeString, RawText.glyphs, List.flatMap_map]
  refine (Unbroken.append ?_ (unbroken_map_char ['"'])).cons '"'
  intro g member
  obtain ⟨c, -, member⟩ := List.mem_flatMap.mp member
  exact unbroken_map_char _ g member

theorem unbroken_enclose {opening closing : Char} {items : List (List Glyph)}
    (each : ∀ gs ∈ items, Unbroken gs) : Unbroken (enclose opening closing items) := by
  have inside : Unbroken ([.char ','].intercalate items) := by
    induction items with
    | nil => exact nofun
    | cons first others ih =>
      obtain ⟨first, each⟩ := List.forall_mem_cons.mp each
      cases others with
      | nil =>
        rw [List.intercalate_singleton]
        exact first
      | cons second others =>
        rw [List.intercalate_cons_cons, List.append_assoc]
        exact first.append ((ih each).cons ',')
  exact (inside.append (unbroken_map_char [closing])).cons opening

mutual

/-- A value that is not torn is written in characters. -/
theorem unbroken_write : ∀ {v : Json}, v.tear? = none → Unbroken v.write
  | .null, _ => unbroken_map_char _
  | .bool _, _ => unbroken_map_char _
  | .number _, _ => unbroken_map_char _
  | .str _, untorn => unbroken_writeString untorn
  | .arr _, untorn => unbroken_enclose (unbroken_writeItems untorn)
  | .obj _, untorn => unbroken_enclose (unbroken_writeMembers untorn)

theorem unbroken_writeItems :
    ∀ {items : List Json}, tearOfItems? items = none → ∀ gs ∈ writeItems items, Unbroken gs
  | [], _ => nofun
  | first :: others, untorn => by
    obtain ⟨first, others⟩ : first.tear? = none ∧ tearOfItems? others = none := by
      simpa [tearOfItems?] using untorn
    exact List.forall_mem_cons.mpr ⟨unbroken_write first, unbroken_writeItems others⟩

theorem unbroken_writeMembers :
    ∀ {members : List (RawText × Json)}, tearOfMembers? members = none →
      ∀ gs ∈ writeMembers members, Unbroken gs
  | [], _ => nofun
  | (name, item) :: others, untorn => by
    obtain ⟨name, item, others⟩ :
        name.tear? = none ∧ item.tear? = none ∧ tearOfMembers? others = none := by
      simpa [tearOfMembers?] using untorn
    exact List.forall_mem_cons.mpr
      ⟨(unbroken_writeString name).append ((unbroken_write item).cons ':'),
        unbroken_writeMembers others⟩

end

theorem compact_of_untorn {v : Json} (untorn : v.tear? = none) :
    ∃ body : String, v.compact = .whole body ∧ v.write = body.toList.map .char := by
  obtain ⟨cs, written⟩ := (unbroken_write untorn).exists_map_char
  refine ⟨String.ofList cs, ?_, ?_⟩
  · rw [compact, written, RawText.ofGlyphs, RawText.ofGlyphsBehind_map_char]
    rfl
  · rw [String.toList_ofList, written]

theorem write_obj_starts (ms : List (RawText × Json)) :
    ∃ c gs, (c = '"' ∨ c = '}') ∧ (Json.obj ms).write = .char '{' :: .char c :: gs := by
  rw [write_obj, enclose]
  cases ms with
  | nil => exact ⟨'}', [], .inr rfl, rfl⟩
  | cons m others =>
    cases others with
    | nil =>
      rw [List.map_singleton, List.intercalate_singleton, writeMember, writeString]
      exact ⟨'"', _, .inl rfl, rfl⟩
    | cons m' others =>
      rw [List.map_cons, List.map_cons, List.intercalate_cons_cons, writeMember, writeString]
      exact ⟨'"', _, .inl rfl, rfl⟩

/-- Where a body begins with two marks of JSON, its first two bytes are no zeros, so each unit is taken
to be one byte. -/
theorem bodyGlyphs?_of_marks {body : String} {first second : Char} {more : List Char}
    (opening : first = '{' ∨ first = '[')
    (next : second = '"' ∨ second = '}' ∨ second = '[' ∨ second = ']')
    (chars : body.toList = first :: second :: more) :
    bodyGlyphs? body = some (body.toList.map .char) := by
  have single : Units.ofBytes (Text.utf8Bytes body) = .single := by
    rw [Text.utf8Bytes, chars, List.flatMap_cons, List.flatMap_cons]
    generalize more.flatMap _ = bytes
    rcases opening with rfl | rfl <;> rcases next with rfl | rfl | rfl | rfl <;>
      rcases bytes with _ | ⟨b, _ | ⟨b', bytes⟩⟩ <;> rfl
  have unmarked : withoutMark body = body.toList := by
    rw [withoutMark, chars]
    rcases opening with rfl | rfl <;> rfl
  rw [bodyGlyphs?, single, unmarked]

theorem bodyGlyphs?_of_obj {ms : List (RawText × Json)} {body : String}
    (written : (Json.obj ms).write = body.toList.map .char) :
    bodyGlyphs? body = some (Json.obj ms).write := by
  obtain ⟨c, gs, plain, starts⟩ := write_obj_starts ms
  obtain ⟨more, chars⟩ : ∃ more, body.toList = '{' :: c :: more := by
    rw [starts] at written
    obtain ⟨_, behind, chars, ⟨⟩, rest⟩ := List.map_eq_cons_iff.mp written.symm
    obtain ⟨_, more, rfl, ⟨⟩, -⟩ := List.map_eq_cons_iff.mp rest
    exact ⟨more, chars⟩
  rw [written]
  exact bodyGlyphs?_of_marks (.inl rfl) (plain.imp_right .inl) chars

/-- The body that an object is written as is read as the object. -/
theorem readBody_compact {ms : List (RawText × Json)} (untorn : (Json.obj ms).tear? = none)
    (readsBack : ReadsBack nestingLimit (.obj ms)) :
    ∃ body, (Json.obj ms).compact = .whole body ∧ readBody body = .ok (.obj ms) := by
  obtain ⟨body, compact, written⟩ := compact_of_untorn untorn
  refine ⟨body, compact, ?_⟩
  rw [readBody, bodyGlyphs?_of_obj written]
  simp only [readGlyphs_write readsBack]
  rfl

end FormulaEditor.Json
