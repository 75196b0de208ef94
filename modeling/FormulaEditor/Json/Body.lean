import FormulaEditor.Json.Read

/-! # JSON in the bodies of messages

The body of a message is bytes, and its first bytes tell in which units its text is written: where
they are zero, the units have two or four bytes.
-/

namespace FormulaEditor.Json

/-- The units in which a text is written. -/
inductive Units where
  | single
  | pairs (order : Text.ByteOrder)
  | quads (order : Text.ByteOrder)
  deriving DecidableEq, Repr

/-- The units that the first bytes tell; every text of JSON begins with a plain character. -/
def Units.ofBytes : List Nat → Units
  | a :: b :: c :: d :: _ =>
    if a = 0 then if b = 0 then .quads .greatestFirst else .pairs .greatestFirst
    else if b = 0 then
      if c = 0 ∧ d = 0 then .quads .greatestLast else .pairs .greatestLast
    else .single
  | [a, b] =>
    if a = 0 then .pairs .greatestFirst else if b = 0 then .pairs .greatestLast else .single
  | _ => .single

/-- The text without one byte order mark in front. -/
def withoutMark (text : String) : List Char :=
  match text.toList with
  | [] => []
  | c :: rest => if c = byteOrderMark then rest else c :: rest

/-- The text of a body that was written as another text in units of one byte; none when its bytes
are no text. -/
def bodyGlyphs? (body : String) : Option (List Glyph) :=
  let bytes := Text.utf8Bytes body
  match Units.ofBytes bytes with
  | .single => some ((withoutMark body).map .char)
  | .pairs order => Text.ofPairUnits? order bytes
  | .quads order => Text.ofQuadUnits? order bytes

/-- Why a body is no value. -/
inductive BodyFault where
  /-- its bytes are no text -/
  | undecodable
  /-- its text is not JSON, as is seen at a position -/
  | malformed (position : Nat)
  /-- it holds a whole number of too many digits -/
  | longInteger
  /-- it holds a container in too many containers -/
  | tooDeep (container : Container)
  deriving DecidableEq, Repr

/-- Why the text of a body cannot be read. -/
def BodyFault.ofError (gs : List Glyph) : ReadError → BodyFault
  | .at _ left => .malformed (gs.length - left)
  | .longInteger _ => .longInteger
  | .tooDeep container => .tooDeep container

def readBody (body : String) : Except BodyFault Json :=
  match bodyGlyphs? body with
  | none => .error .undecodable
  | some gs => (readGlyphs gs).mapError (BodyFault.ofError gs)

end FormulaEditor.Json
