import Mathlib.Data.List.TakeWhile
import FormulaEditor.Proofs.Decimal.Numeral
import FormulaEditor.Server.Route

/-! # Plain paths as targets

A path of characters that stand for themselves, with neither dots nor percent signs in it, is read as
the path that it is: nothing in it is taken for another part of an address, resolved or decoded.
-/

namespace FormulaEditor

/-! ## Plain characters -/

/-- The character stands for itself in a path, begins no other part of an address and is no dot. -/
def Address.IsPlain (c : Char) : Prop := pathSafe c = true ∧ c ≠ '%' ∧ c ≠ ':' ∧ c ≠ '.'

/-- Whether a character is plain can be tested. -/
instance : DecidablePred Address.IsPlain := fun c => by
  simp only [Address.IsPlain]; infer_instance

namespace Address

variable {c : Char} {s : List Char}

theorem IsPlain.bounds (plain : IsPlain c) : 0x20 < c.toNat ∧ c.toNat < 0x7F := by
  have safe := plain.1
  simp only [pathSafe, partSafe, Bool.and_eq_true, decide_eq_true_eq] at safe
  exact safe.1.1

theorem IsPlain.not_control (plain : IsPlain c) : isControl c = false := by
  have bounds := plain.bounds
  simp only [isControl, Bool.or_eq_false_iff, decide_eq_false_iff_not, beq_eq_false_iff_ne]
  omega

theorem IsPlain.ne_mark (plain : IsPlain c) : c ≠ '?' ∧ c ≠ '#' := by
  have safe := plain.1
  constructor <;>
  · rintro rfl
    exact absurd safe (by decide)

theorem isPlain_of_isDigit (digit : c.isDigit = true) : IsPlain c := by
  have all : ∀ n < 0x3A, 0x30 ≤ n → IsPlain (Char.ofNat n) := by decide
  have bounds := Text.toNat_of_isDigit digit
  have plain := all c.toNat bounds.2 bounds.1
  rwa [Char.ofNat_toNat] at plain

/-! ## Reading -/

theorem splitAtFirst_of_forall {marks : List Char} (unmarked : ∀ c ∈ s, c ∉ marks) :
    splitAtFirst marks s = (s, []) := by
  rw [splitAtFirst]
  have passed : ∀ c ∈ s, (!marks.contains c) = true := by simpa using unmarked
  rw [List.takeWhile_eq_self_iff.mpr passed, List.dropWhile_eq_nil_iff.mpr passed]

theorem firstControl?_of_forall (plain : ∀ c ∈ s, IsPlain c) : firstControl? s = none := by
  have passed : ∀ c ∈ s, (!isControl c) = true := by
    intro c member
    rw [(plain c member).not_control]
    rfl
  rw [firstControl?, List.dropWhile_eq_nil_iff.mpr passed]

theorem takeScheme_of_forall (plain : ∀ c ∈ s, IsPlain c) : takeScheme s = ([], s) := by
  have unmarked : ∀ c ∈ s, c ∉ [':'] := by
    intro c member
    simpa using (plain c member).2.2.1
  rw [takeScheme, splitAtFirst_of_forall unmarked]

/-- A plain path is the path of an address that has nothing else. -/
theorem read_plain {first : Char} {rest : List Char} (rooted : first ≠ '/')
    (plain : ∀ c ∈ '/' :: first :: rest, IsPlain c)
    (short : ('/' :: first :: rest).length ≤ lengthLimit) :
    read (String.ofList ('/' :: first :: rest)) =
      .ok ⟨[], [], [], none, '/' :: first :: rest, none, none⟩ := by
  have authority : takeAuthority ('/' :: first :: rest) = ([], '/' :: first :: rest) := by
    unfold takeAuthority
    split
    · next behind same => exact absurd (List.cons.inj (List.cons.inj same).2).1 rooted
    · rfl
  have unmarked : ∀ c ∈ '/' :: first :: rest, c ∉ ['?', '#'] := by
    intro c member
    simpa using (plain c member).ne_mark
  have path : splitAtFirst ['?', '#'] ('/' :: first :: rest) = ('/' :: first :: rest, []) :=
    splitAtFirst_of_forall unmarked
  have single : "//".toList.isPrefixOf ('/' :: first :: rest) = false := by
    simpa [List.isPrefixOf_cons_cons] using Ne.symm rooted
  have checked :
      checkPath ⟨[], [], [], none, '/' :: first :: rest, none, none⟩ = .ok () := by
    rw [checkPath, single]
    rfl
  rw [read]
  simp only [String.toList_ofList, if_neg (Nat.not_lt.mpr short), firstControl?_of_forall plain,
    takeScheme_of_forall plain, authority, path]
  -- There is no authority, so the host is empty and the port the usual one.
  change (checkPath ⟨[], [], [], none, '/' :: first :: rest, none, none⟩).bind (fun _ => .ok _) = _
  rw [checked]
  rfl

/-! ## Segments -/

theorem intercalate_segments (s : List Char) :
    ['/'].intercalate (Text.segments (· == '/') s) = s := by
  induction s with
  | nil => rfl
  | cons c rest ih =>
    rw [Text.segments]
    obtain ⟨first, more, split⟩ := List.exists_cons_of_ne_nil (Text.segments_ne_nil (· == '/') rest)
    rw [split] at ih ⊢
    by_cases slash : c = '/'
    · rw [if_pos (by simpa using slash), List.intercalate_cons_cons, ih, slash]
      rfl
    · rw [if_neg (by simpa using slash)]
      cases more with
      | nil => simpa using ih
      | cons second more =>
        rw [List.intercalate_cons_cons] at ih ⊢
        simpa using ih

/-- The characters of a segment are characters of the text. -/
theorem mem_of_mem_segments {segment : List Char} (found : segment ∈ Text.segments (· == '/') s)
    (member : c ∈ segment) : c ∈ s := by
  induction s generalizing segment with
  | nil =>
    obtain rfl : segment = [] := by simpa [Text.segments] using found
    cases member
  | cons d rest ih =>
    rw [Text.segments] at found
    split at found
    · rcases List.mem_cons.mp found with rfl | found
      · cases member
      · exact List.mem_cons_of_mem d (ih found member)
    · split at found
      · next none => exact absurd none (Text.segments_ne_nil _ rest)
      · next first more split =>
        rw [split] at ih
        rcases List.mem_cons.mp found with rfl | found
        · rcases List.mem_cons.mp member with rfl | member
          · exact List.mem_cons_self
          · exact List.mem_cons_of_mem d (ih List.mem_cons_self member)
        · exact List.mem_cons_of_mem d (ih (List.mem_cons_of_mem first found) member)

theorem foldl_resolveSegment_of_forall {segments : List (List Char)}
    (undotted : ∀ segment ∈ segments, '.' ∉ segment) (kept : List (List Char)) :
    segments.foldl resolveSegment kept = segments.reverse ++ kept := by
  induction segments generalizing kept with
  | nil => rfl
  | cons segment rest ih =>
    obtain ⟨first, others⟩ := List.forall_mem_cons.mp undotted
    have single : segment ≠ ['.'] := by
      rintro rfl
      exact first List.mem_cons_self
    have double : segment ≠ ['.', '.'] := by
      rintro rfl
      exact first List.mem_cons_self
    rw [List.foldl_cons, resolveSegment, if_neg single, if_neg double, ih others]
    simp

/-- A path without dots is its own resolution. -/
theorem resolveDots_of_forall (plain : ∀ c ∈ s, IsPlain c) : resolveDots s = s := by
  have undotted : ∀ segment ∈ Text.segments (· == '/') s, '.' ∉ segment := fun segment found dot =>
    (plain '.' (mem_of_mem_segments found dot)).2.2.2 rfl
  rw [resolveDots, foldl_resolveSegment_of_forall undotted, List.append_nil, List.reverse_reverse,
    intercalate_segments]

theorem quote_pathSafe_of_forall (plain : ∀ c ∈ s, IsPlain c) : quote pathSafe s = s := by
  induction s with
  | nil => rfl
  | cons c rest ih =>
    obtain ⟨first, others⟩ := List.forall_mem_cons.mp plain
    have kept := ih others
    rw [quote] at kept ⊢
    rw [List.flatMap_cons, if_pos first.1, kept]
    rfl

end Address

/-! ## Decoding -/

namespace Text

theorem utf8Bytes_of_isPlain {c : Char} (plain : Address.IsPlain c) :
    (String.utf8EncodeChar c).map UInt8.toNat = [c.toNat] := by
  have all : ∀ n < 0x7F, (String.utf8EncodeChar (Char.ofNat n)).map UInt8.toNat = [n] := by decide
  have bytes := all c.toNat plain.bounds.2
  rwa [Char.ofNat_toNat] at bytes

theorem percentBytes_of_forall {s : List Char} (plain : ∀ c ∈ s, Address.IsPlain c) :
    percentBytes s = s.map Char.toNat := by
  induction s with
  | nil => rfl
  | cons c rest ih =>
    obtain ⟨first, others⟩ := List.forall_mem_cons.mp plain
    unfold percentBytes
    split
    · next same => cases same
    · next a b behind same => exact absurd (List.cons.inj same).1 first.2.1
    · next d behind _ same =>
      cases same
      rw [utf8Bytes_of_isPlain first, ih others]
      rfl

theorem ofBytes_of_forall {s : List Char} (plain : ∀ c ∈ s, Address.IsPlain c) :
    ofBytes (s.map Char.toNat) = s := by
  rw [ofBytes]
  induction s with
  | nil => rfl
  | cons c rest ih =>
    obtain ⟨first, others⟩ := List.forall_mem_cons.mp plain
    have below : c.toNat < 0x80 := Nat.lt_trans first.bounds.2 (by decide)
    have byte : nextByte none c.toNat = ([c], none) := by
      rw [nextByte, beginChar, if_pos below, Char.ofNat_toNat]
    rw [List.map_cons, ofBytesFrom, byte, ih others]
    rfl

theorem percentDecode_of_forall {s : List Char} (plain : ∀ c ∈ s, Address.IsPlain c) :
    percentDecode s = s := by
  rw [percentDecode, percentBytes_of_forall plain, ofBytes_of_forall plain]

end Text

namespace Server

/-- A plain path is a target without parameters. -/
theorem Target.ofString_plain {path : List Char} {first : Char} {rest : List Char}
    (split : path = '/' :: first :: rest) (rooted : first ≠ '/')
    (plain : ∀ c ∈ path, Address.IsPlain c) (short : path.length ≤ Address.lengthLimit) :
    ofString (String.ofList path) = .ok ⟨path, []⟩ := by
  subst split
  have rootedPath : Address.rootedPath ⟨[], [], [], none, '/' :: first :: rest, none, none⟩ =
      '/' :: first :: rest := by
    have other : (first == '/') = false := by simpa using rooted
    simp [Address.rootedPath, other]
  have relative :
      Address.isAbsolute ⟨[], [], [], none, '/' :: first :: rest, none, none⟩ = false := rfl
  have fits : checkPart "path" (Address.quote Address.pathSafe ('/' :: first :: rest)) = .ok () := by
    rw [Address.quote_pathSafe_of_forall plain, checkPart, Address.checkLength,
      if_neg (Nat.not_lt.mpr short)]
    rfl
  have path : pathOf ⟨[], [], [], none, '/' :: first :: rest, none, none⟩ =
      .ok ('/' :: first :: rest) := by
    rw [pathOf, relative, if_neg Bool.false_ne_true, rootedPath, fits,
      Address.resolveDots_of_forall plain]
    rfl
  rw [ofString, Address.read_plain rooted plain short]
  change (pathOf ⟨[], [], [], none, '/' :: first :: rest, none, none⟩).bind _ = _
  rw [path]
  change Except.ok (Target.mk (Text.percentDecode (Text.percentDecode _)) _) = _
  rw [Text.percentDecode_of_forall plain, Text.percentDecode_of_forall plain]
  rfl

end Server

end FormulaEditor
