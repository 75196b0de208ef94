import FormulaEditor.Json.Basic

/-! # Issues with structured data

Data from outside is checked against the record that is expected, and everything wrong with it is
reported at once. An issue has a kind, the path to the offending part, and that part itself.
-/

namespace FormulaEditor

/-- What is wrong with a part of the data. -/
inductive IssueKind where
  | missing
  | stringType
  | stringUnicode
  | stringTooShort
  | intType
  | intParsing
  | intParsingSize
  | intFromFloat
  | finiteNumber
  | floatType
  | floatParsing
  | boolType
  | boolParsing
  | listType
  | dictType
  /-- none of the words that are allowed -/
  | enumeration (words : List String)
  /-- no record of the kind with this name -/
  | modelType (name : String)
  | attributesType
  /-- the parts are valid and do not fit together -/
  | valueError (reason : String)
  | jsonInvalid
  deriving DecidableEq, Repr

namespace IssueKind

/-- The short name of the kind. -/
def code : IssueKind → String
  | .missing => "missing"
  | .stringType => "string_type"
  | .stringUnicode => "string_unicode"
  | .stringTooShort => "string_too_short"
  | .intType => "int_type"
  | .intParsing => "int_parsing"
  | .intParsingSize => "int_parsing_size"
  | .intFromFloat => "int_from_float"
  | .finiteNumber => "finite_number"
  | .floatType => "float_type"
  | .floatParsing => "float_parsing"
  | .boolType => "bool_type"
  | .boolParsing => "bool_parsing"
  | .listType => "list_type"
  | .dictType => "dict_type"
  | .enumeration _ => "enum"
  | .modelType _ => "model_type"
  | .attributesType => "model_attributes_type"
  | .valueError _ => "value_error"
  | .jsonInvalid => "json_invalid"

/-- Words in single quotes, the last one joined by "or". -/
def alternatives : List String → String
  | [] => ""
  | [word] => "'" ++ word ++ "'"
  | [word, last] => "'" ++ word ++ "' or '" ++ last ++ "'"
  | word :: more => "'" ++ word ++ "', " ++ alternatives more

def message : IssueKind → String
  | .missing => "Field required"
  | .stringType => "Input should be a valid string"
  | .stringUnicode =>
    "Input should be a valid string, unable to parse raw data as a unicode string"
  | .stringTooShort => "String should have at least 1 character"
  | .intType => "Input should be a valid integer"
  | .intParsing => "Input should be a valid integer, unable to parse string as an integer"
  | .intParsingSize => "Unable to parse input string as an integer, exceeded maximum size"
  | .intFromFloat => "Input should be a valid integer, got a number with a fractional part"
  | .finiteNumber => "Input should be a finite number"
  | .floatType => "Input should be a valid number"
  | .floatParsing => "Input should be a valid number, unable to parse string as a number"
  | .boolType => "Input should be a valid boolean"
  | .boolParsing => "Input should be a valid boolean, unable to interpret input"
  | .listType => "Input should be a valid list"
  | .dictType => "Input should be a valid dictionary"
  | .enumeration words => "Input should be " ++ alternatives words
  | .modelType name => "Input should be a valid dictionary or instance of " ++ name
  | .attributesType =>
    "Input should be a valid dictionary or object to extract fields from"
  | .valueError reason => "Value error, " ++ reason
  | .jsonInvalid => "JSON decode error"

/-- What else is told about the kind. -/
def context? : IssueKind → Option Json
  | .stringTooShort => some (.obj [("min_length", .int 1)])
  | .enumeration words => some (.obj [("expected", .str (.whole (alternatives words)))])
  | .modelType name => some (.obj [("class_name", .str (.whole name))])
  | .valueError _ => some (.obj [("error", .obj [])])
  | _ => none

end IssueKind

/-- One step of a path into the data. -/
inductive Segment where
  | name (s : RawText)
  | index (i : Nat)
  deriving DecidableEq, Repr

/-- One thing that is wrong. -/
structure Issue where
  kind : IssueKind
  path : List Segment
  /-- the part of the data that was looked at -/
  input : Json
  deriving Repr

/-- What a check gives: the value, or all issues in the order of the parts. -/
abbrev Checked (α : Type) := Except (List Issue) α

namespace Checked

variable {α β : Type}

/-- A single issue with a part of the data, at the part itself. -/
def refuse (kind : IssueKind) (input : Json) : Checked α := .error [⟨kind, [], input⟩]

/-- The issues of a part, seen from the whole. -/
def within (segment : Segment) (part : Checked α) : Checked α :=
  part.mapError fun issues => issues.map fun issue => { issue with path := segment :: issue.path }

/-- Two checks, the issues of both being kept. -/
def both (first : Checked α) (second : Checked β) : Checked (α × β) :=
  match first, second with
  | .ok a, .ok b => .ok (a, b)
  | .ok _, .error issues => .error issues
  | .error issues, .ok _ => .error issues
  | .error issues, .error more => .error (issues ++ more)

/-- Checks the items of a list, the first one having the given index. -/
def itemsFrom (check : Json → Checked α) (index : Nat) : List Json → Checked (List α)
  | [] => .ok []
  | item :: rest =>
    (both (within (.index index) (check item)) (itemsFrom check (index + 1) rest)).map
      fun (a, more) => a :: more

/-- A list whose items all pass a check. -/
def list (check : Json → Checked α) : Json → Checked (List α)
  | .arr items => itemsFrom check 0 items
  | other => refuse .listType other

/-- A member that must be there. -/
def required (members : List (RawText × Json)) (name : String) (check : Json → Checked α) :
    Checked α :=
  match Json.member? members name with
  | some value => within (.name name) (check value)
  | none => .error [⟨.missing, [.name name], .obj members⟩]

/-- A member that has a default when it is not there. -/
def optional (members : List (RawText × Json)) (name : String) (default : α)
    (check : Json → Checked α) : Checked α :=
  match Json.member? members name with
  | some value => within (.name name) (check value)
  | none => .ok default

/-- A part that may be null. -/
def nullable (check : Json → Checked α) : Json → Checked (Option α)
  | .null => .ok none
  | other => (check other).map some

end Checked

end FormulaEditor
