import FormulaEditor.Text.Basic
import FormulaEditor.Text.CompositionTable

/-! # The composed form of texts

Many letters with marks can be written as one character or as several. In the composed form the
marks behind a letter stand in their order, and whatever can be one character is one. The form is
found by taking all characters apart, ordering the marks, and putting characters together again.
Texts are given by the numbers of their characters.
-/

namespace FormulaEditor.Text

/-- The order of a mark; characters that are no marks have order zero. -/
def markOrder (n : Nat) : Nat :=
  match markOrders.find? fun entry => inRangesOf entry.2 n with
  | some (order, _) => order
  | none => 0

/-! ## Korean syllables -/

def syllableBase : Nat := 0xAC00

def leadBase : Nat := 0x1100

def vowelBase : Nat := 0x1161

/-- The number before the first trailing consonant. -/
def tailBase : Nat := 0x11A7

def leadCount : Nat := 19

def vowelCount : Nat := 21

/-- The number of trailing consonants, none at all being one of them. -/
def tailCount : Nat := 28

def syllableLetters? (n : Nat) : Option (List Nat) :=
  if syllableBase ≤ n ∧ n < syllableBase + leadCount * vowelCount * tailCount then
    let place := n - syllableBase
    let lead := leadBase + place / (vowelCount * tailCount)
    let vowel := vowelBase + place % (vowelCount * tailCount) / tailCount
    let tail := place % tailCount
    some (if tail = 0 then [lead, vowel] else [lead, vowel, tailBase + tail])
  else none

/-- The syllable of a lead and a vowel, or of a syllable without a tail and a tail. -/
def syllable? (first second : Nat) : Option Nat :=
  if leadBase ≤ first ∧ first < leadBase + leadCount ∧
      vowelBase ≤ second ∧ second < vowelBase + vowelCount then
    some (syllableBase +
      ((first - leadBase) * vowelCount + (second - vowelBase)) * tailCount)
  else if syllableBase ≤ first ∧ first < syllableBase + leadCount * vowelCount * tailCount ∧
      (first - syllableBase) % tailCount = 0 ∧
      tailBase < second ∧ second < tailBase + tailCount then
    some (first + (second - tailBase))
  else none

/-! ## Taking apart and putting together -/

/-- The character that two are together. -/
def composed? (first second : Nat) : Option Nat :=
  match syllable? first second with
  | some n => some n
  | none => (compositions.lookup second).bind (·.lookup first)

/-- The two characters that one is. -/
def pairOf? (n : Nat) : Option (Nat × Nat) :=
  compositions.findSome? fun (second, firsts) =>
    (firsts.find? (·.2 == n)).map fun (first, _) => (first, second)

/-- The greatest number of times that a character is taken apart. -/
def takeApartLimit : Nat := 8

/-- The characters that one is, taken apart up to so many times. -/
def takeApart : (times : Nat) → Nat → List Nat
  | 0, n => [n]
  | times + 1, n =>
    match syllableLetters? n with
    | some letters => letters
    | none =>
      match pairOf? n with
      | some (first, second) => takeApart times first ++ [second]
      | none => [n]

/-- Puts a mark behind all marks of its order or a lower one; `marks` are those behind a letter. -/
def insertMark (mark : Nat) (marks : List Nat) : List Nat :=
  marks.takeWhile (markOrder · ≤ markOrder mark) ++
    mark :: marks.dropWhile (markOrder · ≤ markOrder mark)

/-- The characters with the marks in order, `marks` being marks that have been passed. -/
def orderMarks (marks : List Nat) : List Nat → List Nat
  | [] => marks
  | n :: rest =>
    if markOrder n = 0 then marks ++ n :: orderMarks [] rest
    else orderMarks (insertMark n marks) rest

/-- What has been put together last: a letter, and the marks behind it, the last one first. -/
structure Cluster where
  letter : Nat
  marks : List Nat := []

/-- The characters of what has been put together. -/
def Cluster.numbers (c : Cluster) : List Nat := c.letter :: c.marks.reverse

/-- Nothing stands between the letter and a mark of an order but marks of lower orders. -/
def Cluster.reaches (c : Cluster) (order : Nat) : Bool :=
  match c.marks with
  | [] => true
  | last :: _ => decide (markOrder last < order)

/-- Puts characters together, each with the letter before it where there is one character for
both. -/
def putTogether (before : Option Cluster) : List Nat → List Nat
  | [] => (before.map Cluster.numbers).getD []
  | n :: rest =>
    match before with
    | none =>
      if markOrder n = 0 then putTogether (some ⟨n, []⟩) rest else n :: putTogether none rest
    | some c =>
      match (if c.reaches (markOrder n) then composed? c.letter n else none) with
      | some one => putTogether (some ⟨one, c.marks⟩) rest
      | none =>
        if markOrder n = 0 then c.numbers ++ putTogether (some ⟨n, []⟩) rest
        else putTogether (some ⟨c.letter, n :: c.marks⟩) rest

def isComposed (text : List Nat) : Bool :=
  text.all (!inRangesOf uncomposedRanges ·) &&
    putTogether none (orderMarks [] (text.flatMap (takeApart takeApartLimit))) == text

end FormulaEditor.Text
