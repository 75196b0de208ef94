import FormulaEditor.Suggestion
import FormulaEditor.Token
import FormulaEditor.Validation.Coercion

/-! # Tokens and suggestions in structured data

How tokens and suggestions are written as records, and which records are accepted for them. A
written token is accepted as the same token.
-/

namespace FormulaEditor

/-! ## Suggestions -/

namespace Suggestion

def toJson (s : Suggestion) : Json := .obj [("id", .str s.id), ("name", .str s.name)]

/-- An identifier: a whole number stands for its digits, unless it has too many. -/
def checkId (v : Json) : Checked String :=
  match v with
  | .number (.int n) =>
    match (Number.int n).text? with
    | some digits => .ok digits
    | none => Checked.refuse (.valueError (integerLimitMessage "")) v
  | v => Coercion.nonemptyString v

def ofJson (v : Json) : Checked Suggestion :=
  match v with
  | .obj members =>
    (Checked.both (Checked.required members "id" checkId)
      (Checked.required members "name" Coercion.nonemptyString)).map fun (id, name) => ⟨id, name⟩
  | v => Checked.refuse (.modelType "Suggestion") v

/-- The suggestion with an identifier and a name given as loose values. -/
def ofParts (id name : Json) : Checked Suggestion := ofJson (.obj [("id", id), ("name", name)])

end Suggestion

/-! ## Tokens -/

namespace Token

/-- What a token holds. A number or a text stays what it is, a truth value counts as a number. -/
def checkContent (v : Json) : Checked Content :=
  match v with
  | .number n => .ok (.number n)
  | .str s => .ok (.text s)
  | .bool b => .ok (.number (.int (if b then 1 else 0)))
  | v =>
    .error [⟨.intType, [.name "int"], v⟩, ⟨.floatType, [.name "float"], v⟩,
      ⟨.stringType, [.name "str"], v⟩]

/-- The fields that the members of a record give. -/
def checkFields (members : List (RawText × Json)) : Checked Fields :=
  let kind := Checked.required members "kind" (Coercion.word Kind.all Kind.word)
  let value := Checked.optional members "value" (.number (.int 0)) checkContent
  let name := Checked.optional members "name" none (Checked.nullable Coercion.rawText)
  let id := Checked.optional members "id" none (Checked.nullable Coercion.rawText)
  (Checked.both kind (Checked.both value (Checked.both name id))).map
    fun (kind, value, name, id) => ⟨kind, value, name, id⟩

/-- The token that a record is; `noRecord` is the issue with anything that is no record. Whether the
fields fit together is checked when each of them is valid. -/
def ofJson (noRecord : IssueKind) (v : Json) : Checked Token :=
  match v with
  | .obj members =>
    match checkFields members with
    | .error issues => .error issues
    | .ok fields =>
      (ofFields fields).mapError fun fault => [⟨.valueError fault.message, [], .obj members⟩]
  | v => Checked.refuse noRecord v

/-- The issue with anything that is no record of a token. -/
def notAToken : IssueKind := .modelType "Token"

def Fields.toJson (f : Fields) : Json :=
  .obj [("kind", .str f.kind.word),
    ("value", match f.value with | .number n => .number n | .text s => .str s),
    ("name", .ofText? f.name), ("id", .ofText? f.id)]

def toJson (t : Token) : Json := t.fields.toJson

end Token

end FormulaEditor
