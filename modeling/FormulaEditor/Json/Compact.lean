import FormulaEditor.Json.Basic

/-! # Writing JSON

The compact form of a value has no blanks between its parts and escapes only what has to be escaped.
A value that holds a torn text has a torn form, which cannot be sent.
-/

namespace FormulaEditor.Json

/-! ## Torn texts -/

mutual

/-- Where the first torn text of the value is torn, members being taken in their order. -/
def tear? : Json → Option RawText.Tear
  | .str s => s.tear?
  | .arr items => tearOfItems? items
  | .obj members => tearOfMembers? members
  | _ => none

/-- Where the first torn text of the values is torn. -/
def tearOfItems? : List Json → Option RawText.Tear
  | [] => none
  | item :: rest => item.tear? <|> tearOfItems? rest

/-- Where the first torn text of the members is torn. -/
def tearOfMembers? : List (RawText × Json) → Option RawText.Tear
  | [] => none
  | (name, item) :: rest => name.tear? <|> item.tear? <|> tearOfMembers? rest

end

/-! ## The compact form -/

/-- A glyph of a string between its quotes. -/
def writeGlyph : Glyph → List Glyph
  | .char c =>
    let image :=
      if c = '"' ∨ c = '\\' then ['\\', c]
      else if c = '\n' then ['\\', 'n']
      else if c = '\r' then ['\\', 'r']
      else if c = '\t' then ['\\', 't']
      else if c = '\x08' then ['\\', 'b']
      else if c = '\x0c' then ['\\', 'f']
      else if c.toNat < 0x20 then '\\' :: 'u' :: Text.hexDigits 4 c.toNat
      else [c]
    image.map .char
  | .half h => [.half h]

def writeString (s : RawText) : List Glyph :=
  .char '"' :: s.glyphs.flatMap writeGlyph ++ [.char '"']

def plain (s : String) : List Glyph := s.toList.map .char

/-- The items with commas between them, in brackets. -/
def enclose (opening closing : Char) (items : List (List Glyph)) : List Glyph :=
  .char opening :: [.char ','].intercalate items ++ [.char closing]

mutual

/-- The compact form of a value. Whole numbers are written at any length; what has been read has no
long ones. -/
def write : Json → List Glyph
  | .null => plain "null"
  | .bool b => plain (if b then "true" else "false")
  | .number n => plain n.text
  | .str s => writeString s
  | .arr items => enclose '[' ']' (writeItems items)
  | .obj members => enclose '{' '}' (writeMembers members)

/-- The compact forms of values. -/
def writeItems : List Json → List (List Glyph)
  | [] => []
  | item :: rest => item.write :: writeItems rest

/-- The compact forms of members. -/
def writeMembers : List (RawText × Json) → List (List Glyph)
  | [] => []
  | (name, item) :: rest =>
    (writeString name ++ .char ':' :: item.write) :: writeMembers rest

end

def compact (v : Json) : RawText := .ofGlyphs v.write

end FormulaEditor.Json
