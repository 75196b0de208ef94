import FormulaEditor.Decimal.LooseNumeral
import FormulaEditor.Validation.Issue

/-! # Simple values in structured data

A part that should be a text has to be one; whole numbers, binary numbers and truth values are also
taken from other parts that plainly mean them.
-/

namespace FormulaEditor.Coercion

/-! ## Texts -/

def rawText : Json → Checked RawText
  | .str s => .ok s
  | other => Checked.refuse .stringType other

/-- A text that is not torn. -/
def string : Json → Checked String
  | .str (.whole s) => .ok s
  | .str (.torn before half after) =>
    Checked.refuse .stringUnicode (.str (.torn before half after))
  | other => Checked.refuse .stringType other

/-- A text with at least one character. -/
def nonemptyString (v : Json) : Checked String :=
  match string v with
  | .ok s => if s = "" then Checked.refuse .stringTooShort v else .ok s
  | .error issues => .error issues

def word {α : Type} (values : List α) (wordOf : α → String) (v : Json) : Checked α :=
  let found := match v with
    | .str s => values.find? fun value => RawText.whole (wordOf value) == s
    | _ => none
  match found with
  | some value => .ok value
  | none => Checked.refuse (.enumeration (values.map wordOf)) v

/-! ## Numbers -/

/-- Binary numbers below this in magnitude are taken as whole numbers. -/
def wholeBound : Int := 0x8000000000000000

/-- The text without its underscores, provided that each stands between two other characters;
`before` tells whether one precedes. -/
def dropUnderscores? (before : Bool) : List Char → Option (List Char)
  | [] => some []
  | ['_'] => none
  | '_' :: rest => if before then dropUnderscores? false rest else none
  | c :: rest => (dropUnderscores? true rest).map (c :: ·)

/-- The whole number that a text is, if it is digits, perhaps behind a minus, without a zero in
front of others. -/
def exactInt? (s : List Char) : Option (Except IssueKind Int) :=
  let (negative, unsigned) :=
    match s with
    | '-' :: rest => (true, rest)
    | _ => (false, s)
  match Numeral.takeDigits Text.plainDigit? unsigned with
  | (d :: digits, []) =>
    if d = 0 ∧ digits ≠ [] then none
    else if integerDigitLimit < digits.length + 1 then some (.error .intParsingSize)
    else some (.ok (Numeral.withSign negative (Numeral.ofDigits (d :: digits))))
  | _ => none

/-- The text without a plus in front, behind which no other sign may stand. -/
def dropPlus? : List Char → Option (List Char)
  | '+' :: '-' :: _ => none
  | '+' :: rest => some rest
  | s => some s

/-- A numeral goes on here with its first digit that counts, or with its sign. -/
def startsNumeral (c : Char) : Bool := c == '-' || (decide ('1' ≤ c) && decide (c ≤ '9'))

/-- The rest of a numeral behind zeros and underscores, `last` being the last one of them; it stays
when nothing follows or a point does. -/
def behindZeros? (last : Char) : List Char → Option (List Char)
  | [] => some [last]
  | c :: rest =>
    if c = '0' ∨ c = '_' then behindZeros? c rest
    else if startsNumeral c then some (c :: rest)
    else if c = '.' then some (last :: c :: rest)
    else none

/-- The text without zeros in front. -/
def dropZeros? : List Char → Option (List Char)
  | [] => none
  | c :: rest =>
    if c = '0' then behindZeros? '0' rest
    else if startsNumeral c then some (c :: rest)
    else none

/-- The text without a fraction of zeros. -/
def dropZeroFraction (s : List Char) : List Char :=
  match s.dropWhile (· != '.') with
  | _ :: z :: zeros => if (z :: zeros).all (· == '0') then s.takeWhile (· != '.') else s
  | _ => s

/-- A loosely written whole number as it is written exactly. -/
def tidyInt? (s : List Char) : Option (List Char) := do
  let unsigned ← dropPlus? (Text.trimBy Text.isWhiteSpace s)
  let whole := dropZeroFraction (← dropZeros? unsigned)
  return (dropUnderscores? false whole).getD whole

/-- The whole number that a text means: a plus, zeros in front, a fraction of zeros, underscores
between digits and white space around it do not count. -/
def intOfText (s : String) : Except IssueKind Int :=
  match exactInt? s.toList with
  | some result => result
  | none => ((tidyInt? s.toList).bind exactInt?).getD (.error .intParsing)

/-- The whole number that a binary number means. -/
def intOfBinary64 (x : Binary64) : Except IssueKind Int :=
  if !x.isFinite then .error .finiteNumber
  else
    match x.toInt? with
    | none => .error .intFromFloat
    | some n => if n.natAbs < wholeBound then .ok n else .error .intParsingSize

/-- A whole number. -/
def intOf : Json → Except IssueKind Int
  | .number (.int n) => .ok n
  | .number (.float x) => intOfBinary64 x
  | .bool b => .ok (if b then 1 else 0)
  | .str (.whole s) => intOfText s
  | .str (.torn ..) => .error .stringUnicode
  | _ => .error .intType

/-- The binary number that a text means. -/
def binary64OfText (s : String) : Except IssueKind Binary64 :=
  match LooseNumeral.readPlain? Text.plainDigit? (Text.trimBy Text.isWhiteSpace s.toList) with
  | some x => .ok x
  | none =>
    match (dropUnderscores? false s.toList).bind (LooseNumeral.readPlain? Text.plainDigit?) with
    | some x => .ok x
    | none => .error .floatParsing

/-- A binary number from a part that is no number. -/
def binary64Of : Json → Except IssueKind Binary64
  | .str (.whole s) => binary64OfText s
  | .str (.torn ..) => .error .stringUnicode
  | _ => .error .floatType

/-- A check whose only issue is at the part itself. -/
def plain {α : Type} (read : Json → Except IssueKind α) (v : Json) : Checked α :=
  (read v).mapError fun kind => [⟨kind, [], v⟩]

def int : Json → Checked Int := plain intOf

/-- A number of either kind. A number stays what it is; other parts are taken as whole numbers if
they can be, and as binary numbers otherwise. -/
def number (v : Json) : Checked Number :=
  match v with
  | .number n => .ok n
  | v =>
    match intOf v with
    | .ok n => .ok (.int n)
    | .error notInt =>
      match binary64Of v with
      | .ok x => .ok (.float x)
      | .error notFloat =>
        .error [⟨notInt, [.name "int"], v⟩, ⟨notFloat, [.name "float"], v⟩]

/-! ## Truth values -/

/-- The words for false and for true, in any mixture of cases. -/
def boolWords : List (String × Bool) := [
  ("0", false), ("f", false), ("n", false), ("no", false), ("off", false), ("false", false),
  ("1", true), ("t", true), ("y", true), ("on", true), ("yes", true), ("true", true)]

/-- The truth value that a whole number means. -/
def boolOfInt (n : Int) : Except IssueKind Bool :=
  if n = 0 then .ok false
  else if n = 1 then .ok true
  else .error .boolParsing

/-- A truth value. -/
def boolOf : Json → Except IssueKind Bool
  | .bool b => .ok b
  | .number (.int n) =>
    if -wholeBound ≤ n ∧ n < wholeBound then boolOfInt n else .error .boolType
  | .number (.float x) =>
    match intOfBinary64 x with
    | .ok n => boolOfInt n
    | .error _ => .error .boolType
  | .str (.torn ..) => .error .stringUnicode
  | .str (.whole s) =>
    match boolWords.lookup (String.ofList (s.toList.map Char.toLower)) with
    | some b => .ok b
    | none => .error .boolParsing
  | _ => .error .boolType

def bool : Json → Checked Bool := plain boolOf

end FormulaEditor.Coercion
