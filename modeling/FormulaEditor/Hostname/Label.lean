import FormulaEditor.Hostname.Direction
import FormulaEditor.Hostname.Joining
import FormulaEditor.Hostname.Permitted
import FormulaEditor.Hostname.Punycode
import FormulaEditor.Hostname.Script
import FormulaEditor.Text.Composition
import FormulaEditor.Text.Mark
import FormulaEditor.Text.RawText

/-! # Labels of hostnames

A hostname is a row of labels. A label has to be in composed form and begin and end well, each of
its characters has to be permitted where it stands, and characters of both directions go together
only in certain ways. Labels are given by the numbers of their characters.
-/

namespace FormulaEditor.Hostname

/-! ## Faults -/

/-- What is wrong with the directions in a label. -/
inductive DirectionFault where
  | unknown (position : Nat)
  /-- the first character has no direction -/
  | first
  /-- a character from left to right among others from right to left -/
  | leftAmongRight (position : Nat)
  /-- a character from right to left among others from left to right -/
  | rightAmongLeft (position : Nat)
  /-- digits of two kinds -/
  | mixedNumbers
  /-- the last character has no direction -/
  | ending
  deriving DecidableEq, Repr

inductive Fault where
  | emptyName
  | longName
  | emptyLabel
  | longLabel
  | notComposed
  /-- hyphens in the third and fourth place -/
  | inwardHyphens
  | outerHyphen
  | initialMark
  | notPermitted (n position : Nat) (label : List Nat)
  /-- an invisible separator or joiner where it has no effect -/
  | idleJoiner (n position : Nat) (label : List Nat)
  /-- a character that is only permitted in another place -/
  | misplaced (n position : Nat) (label : List Nat)
  | direction (fault : DirectionFault) (label : List Nat)
  /-- nothing behind the mark of a code -/
  | noCode
  | codeEndsInHyphen
  | badCode
  deriving DecidableEq, Repr

def quotedLabel (label : List Nat) : String := (RawText.ofGlyphs (label.map Glyph.ofNumber)).quoted

/-- A number in base sixteen, with four digits at least. -/
def numberText (n : Nat) : String :=
  let places := if n < 0x10000 then 4 else if n < 0x100000 then 5 else 6
  "U+" ++ String.ofList ((Text.hexDigits places n).map Char.toUpper)

def DirectionFault.message (label : List Nat) : DirectionFault → String
  | .unknown position =>
    "Unknown directionality in label " ++ quotedLabel label ++ " at position " ++ toString position
  | .first =>
    "First codepoint in label " ++ quotedLabel label ++ " must be directionality L, R or AL"
  | .leftAmongRight position =>
    "Invalid direction for codepoint at position " ++ toString position ++
      " in a right-to-left label"
  | .rightAmongLeft position =>
    "Invalid direction for codepoint at position " ++ toString position ++
      " in a left-to-right label"
  | .mixedNumbers => "Can not mix numeral types in a right-to-left label"
  | .ending => "Label ends with illegal codepoint directionality"

def Fault.message : Fault → String
  | .emptyName => "Empty domain"
  | .longName => "Domain too long"
  | .emptyLabel => "Empty Label"
  | .longLabel => "Label too long"
  | .notComposed => "Label must be in Normalization Form C"
  | .inwardHyphens => "Label has disallowed hyphens in 3rd and 4th position"
  | .outerHyphen => "Label must not start or end with a hyphen"
  | .initialMark => "Label begins with an illegal combining character"
  | .notPermitted n position label =>
    "Codepoint " ++ numberText n ++ " at position " ++ toString position ++ " of " ++
      quotedLabel label ++ " not allowed"
  | .idleJoiner n position label =>
    "Unknown codepoint adjacent to joiner " ++ numberText n ++ " at position " ++
      toString position ++ " in " ++ quotedLabel label
  | .misplaced n position label =>
    "Codepoint " ++ numberText n ++ " not allowed at position " ++ toString position ++ " in " ++
      quotedLabel label
  | .direction fault label => fault.message label
  | .noCode => "Malformed A-label, no Punycode eligible content found"
  | .codeEndsInHyphen => "A-label must not end with a hyphen"
  | .badCode => "Invalid A-label"

/-! ## Characters that depend on their neighbours -/

/-- The order of a mark that suppresses a vowel. -/
def viramaOrder : Nat := 9

/-- The first character that takes part in joining joins the character on that side; `one` is the
kind that joins on that side only. -/
def joins (one : Joining) (neighbours : List Nat) : Bool :=
  match neighbours.dropWhile fun n => joining? n == some .transparent with
  | n :: _ => joining? n == some one || joining? n == some .dual
  | [] => false

/-- A joiner or separator may stand between what is before it, the nearest one first, and what is
after it. -/
def joinerFits (n : Nat) (before after : List Nat) : Bool :=
  match before with
  | [] => false
  | nearest :: _ =>
    Text.markOrder nearest == viramaOrder ||
      (n == 0x200C && !(Text.markOrder nearest == 0 && Direction.ofNumber nearest == .unknown) &&
        joins .left before && joins .right after)

/-- A character that is not permitted everywhere may stand between what is before it, the nearest
one first, and what is after it. -/
def placeFits (n : Nat) (before after : List Nat) : Bool :=
  -- A middle dot stands between two letters l.
  if n = 0xB7 then before.head? == some 0x6C && after.head? == some 0x6C
  -- A lower numeral sign stands before a Greek character.
  else if n = 0x375 then after.head?.any (Text.inRangesOf greekRanges ·)
  else if n = 0x5F3 ∨ n = 0x5F4 then before.head?.any (Text.inRangesOf hebrewRanges ·)
  -- A katakana dot needs a Japanese character anywhere in the label.
  else if n = 0x30FB then
    (before ++ after).any fun m => m != 0x30FB &&
      (Text.inRangesOf hiraganaRanges m || Text.inRangesOf katakanaRanges m ||
        Text.inRangesOf hanRanges m)
  -- The two rows of Arabic digits exclude each other.
  else if 0x660 ≤ n ∧ n ≤ 0x669 then
    !(before ++ after).any fun m => decide (0x6F0 ≤ m) && decide (m ≤ 0x6F9)
  else if 0x6F0 ≤ n ∧ n ≤ 0x6F9 then
    !(before ++ after).any fun m => decide (0x660 ≤ m) && decide (m ≤ 0x669)
  else false

/-- The character is one of those that are permitted in some places. -/
def dependsOnPlace (n : Nat) : Bool :=
  n == 0xB7 || n == 0x375 || n == 0x5F3 || n == 0x5F4 || n == 0x30FB ||
    (decide (0x660 ≤ n) && decide (n ≤ 0x669)) || (decide (0x6F0 ≤ n) && decide (n ≤ 0x6F9))

/-- Checks the characters of a label one by one, `before` being those passed, the nearest one
first. -/
def checkCharacters (label before : List Nat) : (rest : List Nat) → Except Fault Unit
  | [] => .ok ()
  | n :: after =>
    if isPermitted n then checkCharacters label (n :: before) after
    else if n = 0x200C ∨ n = 0x200D then
      if joinerFits n before after then checkCharacters label (n :: before) after
      else .error (.idleJoiner n (before.length + 1) label)
    else if dependsOnPlace n then
      if placeFits n before after then checkCharacters label (n :: before) after
      else .error (.misplaced n (before.length + 1) label)
    else .error (.notPermitted n (before.length + 1) label)

/-! ## Directions -/

/-- The direction is from right to left, or that of Arabic digits. -/
def Direction.isRightward : Direction → Bool
  | .right | .arabic | .arabicNumber => true
  | _ => false

/-- The direction can be that of the last character, marks apart, of a label from right to left or
from left to right. -/
def Direction.canEnd (rightToLeft : Bool) : Direction → Bool
  | .number => true
  | .right | .arabic | .arabicNumber => rightToLeft
  | .left => !rightToLeft
  | _ => false

/-- The place of the first item with a property, counted from one. -/
def positionOf? {α : Type} (p : α → Bool) (items : List α) : Option Nat :=
  (items.findIdx? p).map (· + 1)

/-- What is wrong with the directions of the characters of a label from right to left. Of a
character in the wrong direction and a second kind of digits, the first in the label counts. -/
def rightToLeftFault? (directions : List Direction) : Option DirectionFault :=
  let isNumber := fun d => d == Direction.number || d == Direction.arabicNumber
  let numbers := directions.filter isNumber
  let mixed := positionOf? (fun d => isNumber d && numbers.head? != some d) directions
  match positionOf? (· == .left) directions, mixed with
  -- Both faults are there, and the first one in the label is told.
  | some i, some j => some (if i < j then .leftAmongRight i else .mixedNumbers)
  | some i, none => some (.leftAmongRight i)
  | none, some _ => some .mixedNumbers
  | none, none => none

/-- What is wrong with the directions of the characters of a label from left to right. -/
def leftToRightFault? (directions : List Direction) : Option DirectionFault :=
  (positionOf? Direction.isRightward directions).map .rightAmongLeft

/-- What is wrong with the directions of the characters of a label. Labels without a character from
right to left are all right. -/
def directionFault? (directions : List Direction) : Option DirectionFault :=
  match positionOf? (· == .unknown) directions with
  | some i => some (.unknown i)
  | none =>
    if !directions.any Direction.isRightward then none
    else
      let rightToLeft := directions.head? == some .right || directions.head? == some .arabic
      if !rightToLeft && directions.head? != some .left then some .first
      else
        match (if rightToLeft then rightToLeftFault? else leftToRightFault?) directions with
        | some fault => some fault
        | none =>
          match directions.reverse.dropWhile (· == .mark) with
          | last :: _ => if last.canEnd rightToLeft then none else some .ending
          | [] => some .ending

/-! ## Labels -/

/-- The greatest length of a name, and thus of a label before it is coded. -/
def nameLimit : Nat := 254

def labelLimit : Nat := 63

def hyphen : Nat := 0x2D

def checkLabel (label : List Nat) : Except Fault Unit := do
  if label.isEmpty then throw .emptyLabel
  if nameLimit < label.length then throw .longLabel
  if !Text.isComposed label then throw .notComposed
  if (label.drop 2).take 2 == [hyphen, hyphen] then throw .inwardHyphens
  if label.head? == some hyphen || label.getLast? == some hyphen then throw .outerHyphen
  if label.head?.any (Text.isMark ·) then throw .initialMark
  checkCharacters label [] label
  match directionFault? (label.map Direction.ofNumber) with
  | some fault => throw (.direction fault label)
  | none => return ()

end FormulaEditor.Hostname
