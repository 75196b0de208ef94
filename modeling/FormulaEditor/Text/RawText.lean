import FormulaEditor.Text.Blank
import FormulaEditor.Text.Quoted

/-! # Texts with halves of pairs

Characters beyond the first plane can be given as pairs of two numbers, and a text from outside may
hold half of a pair alone, which is no character. A raw text is a text, or it is torn: then it is
known by its first half, the characters before that, and whatever follows. So each raw text has one
form, and only whole texts can be written in UTF-8.
-/

namespace FormulaEditor

/-! ## Glyphs -/

structure Half where
  /-- the place among the halves -/
  offset : Fin 0x800
  deriving DecidableEq, Repr

namespace Half

def number (h : Half) : Nat := 0xD800 + h.offset

/-- The half of a number, if it is one of theirs. -/
def ofNumber? (n : Nat) : Option Half :=
  if h : 0xD800 ≤ n ∧ n < 0xE000 then some ⟨⟨n - 0xD800, by omega⟩⟩ else none

def isFirst (h : Half) : Bool := decide (h.number < 0xDC00)

/-- The half by its number, as it is written where it cannot be shown. -/
def escaped (h : Half) : List Char := '\\' :: 'u' :: Text.hexDigits 4 h.number

end Half

/-- A character, or a half that stands alone. -/
inductive Glyph where
  | char (c : Char)
  | half (h : Half)
  deriving DecidableEq, Repr

namespace Glyph

/-- The glyph of a number; numbers that no glyph has give the zero character. -/
def ofNumber (n : Nat) : Glyph :=
  match Half.ofNumber? n with
  | some h => .half h
  | none => .char (Char.ofNat n)

def number : Glyph → Nat
  | .char c => c.toNat
  | .half h => h.number

def isBlank : Glyph → Bool
  | .char c => Text.isBlank c
  | .half _ => false

def isChar (c : Char) : Glyph → Bool
  | .char d => d == c
  | .half _ => false

def escaped (quote : Char) : Glyph → List Char
  | .char c => Text.escapeChar quote c
  | .half h => h.escaped

/-- The glyph as a character, another one standing in for halves. -/
def toChar (standIn : Char) : Glyph → Char
  | .char c => c
  | .half _ => standIn

end Glyph

/-! ## Raw texts -/

/-- A text that may hold halves. -/
inductive RawText where
  | whole (s : String)
  /-- the characters before the first half, that half, and what follows it -/
  | torn (before : List Char) (half : Half) (after : List Glyph)
  deriving DecidableEq, Repr

namespace RawText

instance : Coe String RawText := ⟨.whole⟩

instance : Inhabited RawText := ⟨.whole ""⟩

def glyphs : RawText → List Glyph
  | .whole s => s.toList.map .char
  | .torn before half after => before.map .char ++ .half half :: after

/-- The text of glyphs, characters being in front of them already, the last one first. -/
def ofGlyphsBehind (front : List Char) : List Glyph → RawText
  | [] => .whole (String.ofList front.reverse)
  | .char c :: rest => ofGlyphsBehind (c :: front) rest
  | .half h :: rest => .torn front.reverse h rest

def ofGlyphs (gs : List Glyph) : RawText := ofGlyphsBehind [] gs

/-- The text, unless it is torn. -/
def toString? : RawText → Option String
  | .whole s => some s
  | .torn .. => none

/-- The text with another behind it. -/
def append : RawText → RawText → RawText
  | .whole s, .whole t => .whole (s ++ t)
  | .whole s, .torn before half after => .torn (s.toList ++ before) half after
  | .torn before half after, t => .torn before half (after ++ t.glyphs)

instance : Append RawText := ⟨append⟩

/-- The texts with a separator between each two. -/
def intercalate (separator : RawText) : List RawText → RawText
  | [] => .whole ""
  | first :: rest => rest.foldl (fun joined s => joined ++ separator ++ s) first

/-- The text with one more glyph behind it. -/
def push (s : RawText) (g : Glyph) : RawText := s ++ ofGlyphs [g]

/-- The text has nothing but blanks. -/
def isBlank : RawText → Bool
  | .whole s => Text.isBlankText s
  | .torn .. => false

/-- The text without the blanks at its two ends. -/
def strip : RawText → RawText
  | .whole s => .whole (Text.strip s)
  | .torn before half after =>
    .torn (before.dropWhile Text.isBlank) half (after.reverse.dropWhile Glyph.isBlank).reverse

/-- The text between quotes, halves being given by their numbers. -/
def quoted : RawText → String
  | .whole s => Text.quoted s
  | s =>
    let quote := Text.quoteFor (s.glyphs.filterMap fun
      | .char c => some c
      | .half _ => none)
    String.ofList (quote :: s.glyphs.flatMap (Glyph.escaped quote) ++ [quote])

/-- The text with a character in place of each half. -/
def mended (standIn : Char) : RawText → String
  | .whole s => s
  | s => String.ofList (s.glyphs.map (Glyph.toChar standIn))

/-! ## Where a text is torn -/

/-- The first halves of a text: how many characters are before them, which is the first, and how
many follow it directly. -/
structure Tear where
  position : Nat
  half : Half
  more : Nat
  deriving DecidableEq, Repr

def isHalf : Glyph → Bool
  | .char _ => false
  | .half _ => true

/-- Where the text is torn, if it is. -/
def tear? : RawText → Option Tear
  | .whole _ => none
  | .torn before half after => some ⟨before.length, half, (after.takeWhile isHalf).length⟩

/-- Why a torn text cannot be written. -/
def Tear.message (t : Tear) : String :=
  let what :=
    if t.more = 0 then
      "character '" ++ String.ofList t.half.escaped ++ "' in position " ++ toString t.position
    else
      "characters in position " ++ toString t.position ++ "-" ++ toString (t.position + t.more)
  "'utf-8' codec can't encode " ++ what ++ ": surrogates not allowed"

/-- A text is torn exactly if it is no whole text. -/
theorem tear?_eq_none_iff {s : RawText} : s.tear? = none ↔ ∃ t, s = .whole t := by
  cases s <;> simp [tear?]

theorem ofGlyphsBehind_map_char (front cs : List Char) :
    ofGlyphsBehind front (cs.map .char) = .whole (String.ofList (front.reverse ++ cs)) := by
  induction cs generalizing front with
  | nil => simp [ofGlyphsBehind]
  | cons c rest ih => simp [ofGlyphsBehind, ih]

theorem ofGlyphs_glyphs (s : RawText) : ofGlyphs s.glyphs = s := by
  cases s with
  | whole s => simp [ofGlyphs, glyphs, ofGlyphsBehind_map_char]
  | torn before half after =>
    suffices h : ∀ front, ofGlyphsBehind front (before.map .char ++ .half half :: after) =
        .torn (front.reverse ++ before) half after by
      simpa [ofGlyphs, glyphs] using h []
    induction before with
    | nil => intro front; simp [ofGlyphsBehind]
    | cons c rest ih => intro front; simp [ofGlyphsBehind, ih]

end RawText

end FormulaEditor
