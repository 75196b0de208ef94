import FormulaEditor.Decimal.Numeral
import FormulaEditor.Json.Basic
import FormulaEditor.Text.Percent
import FormulaEditor.Text.Units

/-! # Reading JSON

A value is read from the front of a text, and what is left is always shorter. A number with neither
point nor exponent is whole; the words for infinity and for an undefined number are numbers too. An
error tells what was expected and how much of the text was left there, from which its position, line
and column follow. Arrays and objects can be nested up to a limit.
-/

namespace FormulaEditor.Json

/-! ## Errors -/

/-- What is wrong at a place of a text. -/
inductive ReadFault where
  | expectingValue
  | expectingName
  | expectingColon
  | expectingComma
  | controlCharacter
  | unterminatedString
  | unknownEscape
  | badNumberEscape
  | byteOrderMark
  | extraData
  deriving DecidableEq, Repr

def ReadFault.message : ReadFault → String
  | .expectingValue => "Expecting value"
  | .expectingName => "Expecting property name enclosed in double quotes"
  | .expectingColon => "Expecting ':' delimiter"
  | .expectingComma => "Expecting ',' delimiter"
  | .controlCharacter => "Invalid control character at"
  | .unterminatedString => "Unterminated string starting at"
  | .unknownEscape => "Invalid \\escape"
  | .badNumberEscape => "Invalid \\uXXXX escape"
  | .byteOrderMark => "Unexpected UTF-8 BOM (decode using utf-8-sig)"
  | .extraData => "Extra data"

/-- A value that holds values. -/
inductive Container where
  | array
  | object
  deriving DecidableEq, Repr

def Container.word : Container → String
  | .array => "array"
  | .object => "object"

/-- Why a text cannot be read. -/
inductive ReadError where
  /-- a fault, and the number of glyphs left at its place -/
  | at (fault : ReadFault) (left : Nat)
  /-- a whole number of too many digits -/
  | longInteger (digits : Nat)
  /-- a container in more containers than there is room for -/
  | tooDeep (container : Container)
  deriving DecidableEq, Repr

/-- What was read from the front of `s`, and the rest. -/
structure Reading (α : Type) (s : List Glyph) where
  item : α
  rest : List Glyph
  shorter : rest.length < s.length

/-- What is shorter than a text is shorter than the text with a glyph in front. -/
theorem length_lt_cons {rest s : List Glyph} (g : Glyph) (shorter : rest.length < s.length) :
    rest.length < (g :: s).length :=
  Nat.lt_succ_of_lt shorter

/-- Dropping glyphs lengthens no text. -/
theorem length_drop_le (n : Nat) (s : List Glyph) : (s.drop n).length ≤ s.length :=
  (List.drop_sublist n s).length_le

/-- Reading from the front of a text, with its errors. -/
abbrev Read (α : Type) (s : List Glyph) : Type := Except ReadError (Reading α s)

/-! ## Blanks -/

/-- The blanks between the parts of a value. -/
def isSpace : Glyph → Bool
  | .char c => c == ' ' || c == '\t' || c == '\n' || c == '\r'
  | .half _ => false

/-- The text from its first glyph that is no blank on. -/
def skip (s : List Glyph) : List Glyph := s.dropWhile isSpace

/-- Skipping blanks lengthens no text. -/
theorem length_skip_le (s : List Glyph) : (skip s).length ≤ s.length :=
  (List.dropWhile_sublist isSpace).length_le

/-- What stands behind the first glyph after blanks is shorter than the text. -/
theorem length_lt_of_skip {s rest : List Glyph} {g : Glyph} (h : skip s = g :: rest) :
    rest.length < s.length := by
  have le := length_skip_le s
  rw [h] at le
  exact le

/-! ## Strings -/

/-- The number of four digits of base sixteen, when something follows them. -/
def hexUnit? : List Glyph → Option Nat
  -- Four digits at the very end are not looked at: the closing quote is missing then.
  | .char a :: .char b :: .char c :: .char d :: _ :: _ => do
    let digits ← [a, b, c, d].mapM Text.hexDigit?
    return digits.foldl (fun n digit => n * 16 + digit) 0
  | _ => none

/-- The character of an escape that is one character long. -/
def escaped? : Char → Option Char
  | '"' => some '"'
  | '\\' => some '\\'
  | '/' => some '/'
  | 'b' => some '\x08'
  | 'f' => some '\x0c'
  | 'n' => some '\n'
  | 'r' => some '\r'
  | 't' => some '\t'
  | _ => none

/-- The text goes on with an escape by number. -/
def startsWithUnit : List Glyph → Bool
  | .char '\\' :: .char 'u' :: _ => true
  | _ => false

/-- A glyph given by an escape in front of others; two halves of a pair are joined when both are
given by escapes, which `joins` tells. -/
def consUnit (unit : Glyph) (joins : Bool) (more : List Glyph) : List Glyph :=
  match more with
  | next :: others =>
    match (if joins then Text.joined? unit next else none) with
    | some c => c :: others
    | none => unit :: more
  | [] => [unit]

/-- The glyphs up to the closing quote, and the rest behind it. Where the closing quote is missing,
the error is at the end. -/
def stringGlyphs (s : List Glyph) : Read (List Glyph) s :=
  match s with
  | [] => .error (.at .unterminatedString 0)
  | .char '"' :: rest => .ok ⟨[], rest, Nat.lt_succ_self _⟩
  | [.char '\\'] => .error (.at .unterminatedString 0)
  | .char '\\' :: .char 'u' :: rest =>
    match hexUnit? rest with
    | none => .error (.at .badNumberEscape (rest.length + 1))
    | some unit =>
      match stringGlyphs (rest.drop 4) with
      | .error e => .error e
      | .ok ⟨more, final, shorter⟩ =>
        .ok ⟨consUnit (.ofNumber unit) (startsWithUnit (rest.drop 4)) more, final,
          length_lt_cons _ (length_lt_cons _ (Nat.lt_of_lt_of_le shorter (length_drop_le 4 rest)))⟩
  | .char '\\' :: g :: rest =>
    match (match g with | .char c => escaped? c | .half _ => none) with
    | none => .error (.at .unknownEscape (rest.length + 2))
    | some image =>
      match stringGlyphs rest with
      | .error e => .error e
      | .ok ⟨more, final, shorter⟩ =>
        .ok ⟨.char image :: more, final, length_lt_cons _ (length_lt_cons _ shorter)⟩
  | g :: rest =>
    if g.number < 0x20 then .error (.at .controlCharacter (rest.length + 1))
    else
      match stringGlyphs rest with
      | .error e => .error e
      | .ok ⟨more, final, shorter⟩ => .ok ⟨g :: more, final, length_lt_cons g shorter⟩
termination_by s.length
decreasing_by
  · exact length_lt_cons _ (Nat.lt_succ_of_le (length_drop_le 4 rest))
  · exact length_lt_cons _ (Nat.lt_succ_self _)
  · exact Nat.lt_succ_self _

/-- The text of a string whose opening quote has been passed. A missing closing quote is an error at
the opening one. -/
def string (s : List Glyph) : Read RawText s :=
  match stringGlyphs s with
  | .error (.at .unterminatedString _) => .error (.at .unterminatedString (s.length + 1))
  | .error e => .error e
  | .ok ⟨gs, rest, shorter⟩ => .ok ⟨.ofGlyphs gs, rest, shorter⟩

/-! ## Numbers -/

/-- The whole part of a number: a zero, or digits that do not start with one. -/
def wholePart? : List Char → Option (List Nat × List Char)
  -- Digits behind a zero are left, and found to be out of place later.
  | '0' :: rest => some ([0], rest)
  | c :: rest =>
    match Text.plainDigit? c with
    | some _ => some (Numeral.takeDigits Text.plainDigit? (c :: rest))
    | none => none
  | [] => none

/-- The fraction of a number, when a digit stands behind the point. -/
def fractionPart (s : List Char) : Option (List Nat) × List Char :=
  match s with
  | '.' :: rest =>
    match Numeral.takeDigits Text.plainDigit? rest with
    | ([], _) => (none, s)
    | (digits, behind) => (some digits, behind)
  | _ => (none, s)

/-- The exponent of a number, when it has digits. -/
def exponentPart (s : List Char) : Option Int × List Char :=
  match s with
  | c :: rest =>
    if c = 'e' ∨ c = 'E' then
      let (negative, unsigned) := Numeral.takeSign rest
      match Numeral.takeDigits Text.plainDigit? unsigned with
      | ([], _) => (none, s)
      | (digits, behind) => (some (Numeral.withSign negative (Numeral.ofDigits digits)), behind)
    else (none, s)
  | [] => (none, s)

/-- The longest numeral in front of a text, and the rest. -/
def numeral? (s : List Char) : Option (Numeral × List Char) :=
  let (negative, unsigned) :=
    match s with
    | '-' :: rest => (true, rest)
    | _ => (false, s)
  (wholePart? unsigned).map fun (whole, afterWhole) =>
    let (fraction, afterFraction) := fractionPart afterWhole
    let (exponent, rest) := exponentPart afterFraction
    (⟨negative, whole, fraction, exponent⟩, rest)

/-- The character can be in a numeral. -/
def isNumeralChar (c : Char) : Bool :=
  (Text.plainDigit? c).isSome || c == '+' || c == '-' || c == '.' || c == 'e' || c == 'E'

/-- The characters in front of a text that can be in a numeral. -/
def numeralChars : List Glyph → List Char
  | .char c :: rest => if isNumeralChar c then c :: numeralChars rest else []
  | _ => []

def ofNumeral (n : Numeral) : Except ReadError Json :=
  if n.isInteger then
    if n.whole.length ≤ integerDigitLimit then .ok (.int n.toInt)
    else .error (.longInteger n.whole.length)
  else .ok (.number (.float n.toBinary64))

/-! ## Words -/

def words : List (List Glyph × Json) :=
  [("null", Json.null), ("true", .bool true), ("false", .bool false),
    ("NaN", .number (.float .nan)), ("Infinity", .number (.float (.infinity false))),
    ("-Infinity", .number (.float (.infinity true)))].map
      fun (word, value) => ((RawText.whole word).glyphs, value)

/-- A word or a number in front of a text, and how many glyphs it takes. -/
def atom (s : List Glyph) : Except ReadError (Json × Nat) :=
  match words.find? fun w => w.1.isPrefixOf s with
  | some (word, value) => .ok (value, word.length)
  | none =>
    -- Halves end a numeral, so it is looked for among the characters only.
    let front := numeralChars s
    match numeral? front with
    | some (n, left) => (ofNumeral n).map (·, front.length - left.length)
    | none => .error (.at .expectingValue s.length)

/-! ## Values -/

abbrev Reader : Type := (s : List Glyph) → Read Json s

/-- The items of an array from the first one on, up to the closing bracket; `s` starts at an
item. -/
def items (inner : Reader) (s : List Glyph) : Read (List Json) s :=
  match inner s with
  | .error e => .error e
  | .ok ⟨item, rest, shorter⟩ =>
    match h : skip rest with
    | .char ']' :: behind => .ok ⟨[item], behind, Nat.lt_trans (length_lt_of_skip h) shorter⟩
    | .char ',' :: behind =>
      have shorterBehind : (skip behind).length < s.length :=
        Nat.lt_of_le_of_lt (length_skip_le behind) (Nat.lt_trans (length_lt_of_skip h) shorter)
      match items inner (skip behind) with
      | .error e => .error e
      | .ok ⟨more, final, shorterFinal⟩ =>
        .ok ⟨item :: more, final, Nat.lt_trans shorterFinal shorterBehind⟩
    | other => .error (.at .expectingComma other.length)
termination_by s.length

/-- The members of an object from the first one on, up to the closing brace; `s` starts at a
name. -/
def members (inner : Reader) (s : List Glyph) : Read (List (RawText × Json)) s :=
  match s with
  | .char '"' :: afterQuote =>
    match string afterQuote with
    | .error e => .error e
    | .ok ⟨name, afterName, shorterName⟩ =>
      match hColon : skip afterName with
      | .char ':' :: afterColon =>
        match inner (skip afterColon) with
        | .error e => .error e
        | .ok ⟨item, rest, shorterItem⟩ =>
          have shorterRest : rest.length < afterQuote.length :=
            Nat.lt_trans (Nat.lt_of_lt_of_le shorterItem (length_skip_le afterColon))
              (Nat.lt_trans (length_lt_of_skip hColon) shorterName)
          match h : skip rest with
          | .char '}' :: behind =>
            have shorterBehind : behind.length < afterQuote.length :=
              Nat.lt_trans (length_lt_of_skip h) shorterRest
            .ok ⟨[(name, item)], behind, length_lt_cons _ shorterBehind⟩
          | .char ',' :: behind =>
            have shorterBehind : (skip behind).length < afterQuote.length :=
              Nat.lt_of_le_of_lt (length_skip_le behind)
                (Nat.lt_trans (length_lt_of_skip h) shorterRest)
            match members inner (skip behind) with
            | .error e => .error e
            | .ok ⟨more, final, shorterFinal⟩ =>
              have shorterEnd := length_lt_cons _ (Nat.lt_trans shorterFinal shorterBehind)
              .ok ⟨(name, item) :: more, final, shorterEnd⟩
          | other => .error (.at .expectingComma other.length)
      | other => .error (.at .expectingColon other.length)
  | other => .error (.at .expectingName other.length)
termination_by s.length
decreasing_by exact length_lt_cons _ shorterBehind

/-- An array whose opening bracket has been passed. -/
def array (inner : Reader) (s : List Glyph) : Read Json s :=
  match h : skip s with
  | .char ']' :: behind => .ok ⟨.arr [], behind, length_lt_of_skip h⟩
  | start =>
    match items inner start with
    | .error e => .error e
    | .ok ⟨found, behind, shorter⟩ =>
      .ok ⟨.arr found, behind, Nat.lt_of_lt_of_le shorter (h ▸ length_skip_le s)⟩

/-- An object whose opening brace has been passed. -/
def object (inner : Reader) (s : List Glyph) : Read Json s :=
  match h : skip s with
  | .char '}' :: behind => .ok ⟨.obj [], behind, length_lt_of_skip h⟩
  | start =>
    match members inner start with
    | .error e => .error e
    | .ok ⟨found, behind, shorter⟩ =>
      .ok ⟨.obj (distinct found), behind, Nat.lt_of_lt_of_le shorter (h ▸ length_skip_le s)⟩

def Reading.behind {s : List Glyph} (first : Glyph) : Read Json s → Read Json (first :: s)
  | .error e => .error e
  | .ok ⟨item, rest, shorter⟩ => .ok ⟨item, rest, length_lt_cons first shorter⟩

/-- A value, with room for so many containers in one another. -/
def value : (room : Nat) → Reader
  | room, s =>
    match s with
    | .char '"' :: rest =>
      match string rest with
      | .error e => .error e
      | .ok ⟨text, behind, shorter⟩ => .ok ⟨.str text, behind, length_lt_cons _ shorter⟩
    | .char '[' :: rest =>
      match room with
      | 0 => .error (.tooDeep .array)
      | room + 1 => Reading.behind _ (array (value room) rest)
    | .char '{' :: rest =>
      match room with
      | 0 => .error (.tooDeep .object)
      | room + 1 => Reading.behind _ (object (value room) rest)
    | first :: rest =>
      match atom (first :: rest) with
      | .error e => .error e
      | .ok (item, taken) =>
        .ok ⟨item, rest.drop (taken - 1), Nat.lt_succ_of_le (length_drop_le _ rest)⟩
    | [] => .error (.at .expectingValue 0)

/-- The number of containers that can be in one another. It is the room that the stack of the program
has left where a text is read, and so depends on the calls under way there: this is the room of a
lookup that reads its answer. The bodies of requests are read elsewhere and are given the same
limit, although the room left there is not quite the same. -/
def nestingLimit : Nat := 970

/-- The value that a whole text is, up to blanks around it. -/
def readGlyphs (s : List Glyph) : Except ReadError Json :=
  match value nestingLimit (skip s) with
  | .error e => .error e
  | .ok ⟨item, rest, _⟩ =>
    match skip rest with
    | [] => .ok item
    | extra => .error (.at .extraData extra.length)

/-- The mark that some programs put in front of a text. -/
def byteOrderMark : Char := '\uFEFF'

/-- The value that a text is. A byte order mark in front is an error. -/
def read (text : String) : Except ReadError Json :=
  let s := (RawText.whole text).glyphs
  if s.head? = some (.char byteOrderMark) then .error (.at .byteOrderMark s.length)
  else readGlyphs s

/-! ## The place of an error -/

/-- The message of an error in a text: the fault with line, column and position. -/
def ReadError.message (text : String) : ReadError → String
  | .at fault left =>
    let position := text.toList.length - left
    let before := text.toList.take position
    let line := before.count '\n' + 1
    let column := (before.reverse.takeWhile (· != '\n')).length + 1
    fault.message ++ ": line " ++ toString line ++ " column " ++ toString column ++ " (char " ++
      toString position ++ ")"
  | .longInteger digits => integerLimitMessage (": value has " ++ toString digits ++ " digits")
  | .tooDeep container =>
    "maximum recursion depth exceeded while decoding a JSON " ++ container.word ++
      " from a unicode string"

end FormulaEditor.Json
