import FormulaEditor.Text.Basic

/-! # Blank characters and trimming

A text is blank when it has nothing but blank characters; trimming removes the blanks at both ends
and nothing else. Two sets are in use: the blanks of typed text, which include the four
information separators, and the narrower white space of numerals in structured data.
-/

namespace FormulaEditor.Text

/-! ## The two sets -/

/-- Ranges of the blank characters: white space, and the information separators U+001C to
U+001F. -/
def blankRanges : List (Nat × Nat) := [
  (0x9, 0xD), (0x1C, 0x20), (0x85, 0x85), (0xA0, 0xA0), (0x1680, 0x1680), (0x2000, 0x200A),
  (0x2028, 0x2029), (0x202F, 0x202F), (0x205F, 0x205F), (0x3000, 0x3000)]

def isBlank (c : Char) : Bool := inRanges blankRanges c

/-- The character is white space: blank and not an information separator. -/
def isWhiteSpace (c : Char) : Bool :=
  isBlank c && !(decide (0x1C ≤ c.toNat) && decide (c.toNat ≤ 0x1F))

/-! ## Trimming -/

/-- Removes the characters of a set from both ends. -/
def trimBy (drop : Char → Bool) (s : List Char) : List Char :=
  ((s.dropWhile drop).reverse.dropWhile drop).reverse

/-- The text without the blanks at its two ends. -/
def strip (s : String) : String := String.ofList (trimBy isBlank s.toList)

def isBlankText (s : String) : Bool := s.toList.all isBlank

/-- Splits off the first word: the blanks in front of it are dropped, and those behind it too.
There is none when only blanks are left. -/
def nextWord? (s : List Char) : Option (List Char × List Char) :=
  match s.dropWhile isBlank with
  | [] => none
  | c :: rest =>
    some ((c :: rest).takeWhile (!isBlank ·),
      ((c :: rest).dropWhile (!isBlank ·)).dropWhile isBlank)

end FormulaEditor.Text
