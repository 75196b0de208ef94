/-! # Percent encoding

A text in an address may give bytes by number; the bytes together are text in UTF-8. Bytes that are
no text become replacement characters, one for each run that could have begun a character.
-/

namespace FormulaEditor.Text

/-! ## Bytes as text -/

def replacement : Char := '\uFFFD'

/-- A character of several bytes that has begun: the number of bytes to come, the range of the next
one, and the value so far. -/
structure PartialChar where
  missing : Nat
  least : Nat
  greatest : Nat
  value : Nat

/-- A byte where a character begins: what it completes, and what it begins. -/
def beginChar (b : Nat) : List Char × Option PartialChar :=
  if b < 0x80 then ([Char.ofNat b], none)
  else if 0xC2 ≤ b ∧ b ≤ 0xDF then ([], some ⟨1, 0x80, 0xBF, b - 0xC0⟩)
  else if 0xE0 ≤ b ∧ b ≤ 0xEF then
    ([], some ⟨2, if b = 0xE0 then 0xA0 else 0x80, if b = 0xED then 0x9F else 0xBF, b - 0xE0⟩)
  else if 0xF0 ≤ b ∧ b ≤ 0xF4 then
    ([], some ⟨3, if b = 0xF0 then 0x90 else 0x80, if b = 0xF4 then 0x8F else 0xBF, b - 0xF0⟩)
  else ([replacement], none)

def nextByte (begun : Option PartialChar) (b : Nat) : List Char × Option PartialChar :=
  match begun with
  | none => beginChar b
  | some p =>
    if p.least ≤ b ∧ b ≤ p.greatest then
      let value := p.value * 0x40 + (b - 0x80)
      if p.missing ≤ 1 then ([Char.ofNat value], none)
      else ([], some ⟨p.missing - 1, 0x80, 0xBF, value⟩)
    else (replacement :: (beginChar b).1, (beginChar b).2)

/-- The text of bytes, a character having begun perhaps. -/
def ofBytesFrom (begun : Option PartialChar) : List Nat → List Char
  | [] => if begun.isSome then [replacement] else []
  | b :: rest => (nextByte begun b).1 ++ ofBytesFrom (nextByte begun b).2 rest

def ofBytes (bytes : List Nat) : List Char := ofBytesFrom none bytes

/-! ## Bytes by number -/

/-- The value of a digit of base sixteen, in either case. -/
def hexDigit? (c : Char) : Option Nat :=
  if '0' ≤ c ∧ c ≤ '9' then some (c.toNat - 0x30)
  else if 'a' ≤ c ∧ c ≤ 'f' then some (c.toNat - 0x57)
  else if 'A' ≤ c ∧ c ≤ 'F' then some (c.toNat - 0x37)
  else none

/-- The bytes of a text in which a percent sign and two digits stand for a byte. -/
def percentBytes : List Char → List Nat
  | [] => []
  | '%' :: a :: b :: rest =>
    match hexDigit? a, hexDigit? b with
    | some high, some low => (high * 16 + low) :: percentBytes rest
    | _, _ => 0x25 :: percentBytes (a :: b :: rest)
  | c :: rest => (String.utf8EncodeChar c).map UInt8.toNat ++ percentBytes rest

def percentDecode (s : List Char) : List Char := ofBytes (percentBytes s)

end FormulaEditor.Text
