import FormulaEditor.Text.RawText

/-! # Texts in units of bytes

A text is sent as bytes in units of one, two or four, the first or the last byte of a unit being the
greatest. In units of two, a character beyond the first plane is a pair of halves; a half that is
not in a pair is kept.
-/

namespace FormulaEditor.Text

inductive ByteOrder where
  | greatestFirst
  | greatestLast
  deriving DecidableEq, Repr

/-- The number that the bytes of a unit make. -/
def ByteOrder.number (order : ByteOrder) (bytes : List Nat) : Nat :=
  let greatestFirst := match order with
    | .greatestFirst => bytes
    | .greatestLast => bytes.reverse
  greatestFirst.foldl (fun n b => n * 0x100 + b) 0

def utf8Bytes (s : String) : List Nat :=
  s.toList.flatMap fun c => (String.utf8EncodeChar c).map UInt8.toNat

/-- The numbers of units of two bytes; none when a byte is missing. -/
def pairUnits? (order : ByteOrder) : List Nat → Option (List Nat)
  | [] => some []
  | [_] => none
  | a :: b :: rest => (pairUnits? order rest).map (order.number [a, b] :: ·)

/-- The numbers of units of four bytes; none when bytes are missing. -/
def quadUnits? (order : ByteOrder) : List Nat → Option (List Nat)
  | [] => some []
  | a :: b :: c :: d :: rest => (quadUnits? order rest).map (order.number [a, b, c, d] :: ·)
  | _ => none

/-- The glyph that two halves are together, if they are a pair. -/
def joined? (first second : Glyph) : Option Glyph :=
  match first, second with
  | .half a, .half b =>
    if a.isFirst && !b.isFirst then
      some (.char (Char.ofNat (0x10000 + (a.number - 0xD800) * 0x400 + (b.number - 0xDC00))))
    else none
  | _, _ => none

/-- The glyphs with the two halves of each pair joined. -/
def joinPairs : List Glyph → List Glyph
  | a :: b :: rest =>
    match joined? a b with
    | some c => c :: joinPairs rest
    | none => a :: joinPairs (b :: rest)
  | gs => gs

/-- The text of bytes in units of two; none when a byte is missing. -/
def ofPairUnits? (order : ByteOrder) (bytes : List Nat) : Option (List Glyph) :=
  (pairUnits? order bytes).map fun units => joinPairs (units.map Glyph.ofNumber)

/-- The text of bytes in units of four; none when bytes are missing or a unit is no character. -/
def ofQuadUnits? (order : ByteOrder) (bytes : List Nat) : Option (List Glyph) :=
  match quadUnits? order bytes with
  | some units =>
    if units.all (· ≤ 0x10FFFF) then some (units.map Glyph.ofNumber) else none
  | none => none

end FormulaEditor.Text
