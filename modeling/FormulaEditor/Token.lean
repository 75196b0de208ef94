import FormulaEditor.Number
import FormulaEditor.Operator
import FormulaEditor.Text.RawText

/-! # Tokens

A formula is a row of tokens. A token is a variable that was picked from the suggestions, an
operator, a number, or a text that was recognised as none of these. `Token.WellFormed` says what
each kind promises; `Token.Fields` is a token as loose fields, and `Token.ofFields` accepts exactly
the fields of well-formed tokens.
-/

namespace FormulaEditor

/-! ## Tokens and their invariant -/

/-- One element of a formula. -/
inductive Token where
  /-- a variable, known by its identifier, with the value it has unless bound to another -/
  | variable (id name : RawText) (value : Number)
  | operator (op : Operator)
  | number (value : Number)
  /-- a text that is nothing else; it has no value -/
  | text (s : RawText)
  deriving DecidableEq, Repr, Inhabited

namespace Token

/-- What each kind of token promises: numbers are finite, and variables have an identifier and a
name. -/
def WellFormed : Token → Prop
  | .variable id name value => id ≠ "" ∧ name ≠ "" ∧ value.isFinite = true
  | .operator _ => True
  | .number value => value.isFinite = true
  | .text _ => True

/-- Whether a token is well formed can be tested. -/
instance : DecidablePred WellFormed := fun t => by
  cases t <;> simp only [WellFormed] <;> infer_instance

/-- The text that stands for the token, however long it is; variables are shown by name. -/
def label : Token → RawText
  | .variable _ name _ => name
  | .operator op => op.symbol
  | .number value => value.text
  | .text s => s

/-- The label as it is shown and told. A number that cannot be written has none. -/
def label? : Token → Option RawText
  | .number value => value.text?.map .whole
  | t => some t.label

/-! ## Tokens as fields -/

inductive Kind where
  | variable
  | operator
  | number
  | text
  deriving DecidableEq, Repr, Inhabited

namespace Kind

/-- The kinds in the order in which they are listed. -/
def all : List Kind := [.variable, .operator, .number, .text]

def word : Kind → String
  | .variable => "variable"
  | .operator => "operator"
  | .number => "number"
  | .text => "text"

end Kind

/-- What a token holds: a number or a text. -/
inductive Content where
  | number (n : Number)
  | text (s : RawText)
  deriving DecidableEq, Repr, Inhabited

namespace Content

/-- The content on display, in full. -/
def shown : Content → RawText
  | .number n => n.text
  | .text s => s

/-- The content inside a message: texts are quoted, and a number must be one that can be written. -/
def quoted? : Content → Option String
  | .number n => n.text?
  | .text s => some s.quoted

end Content

/-- A token as loose fields, which need not fit together. -/
structure Fields where
  kind : Kind
  value : Content
  name : Option RawText
  id : Option RawText
  deriving DecidableEq, Repr

/-- Why fields do not make a token. -/
inductive Fault where
  /-- a variable without a name or without an identifier -/
  | unnamedVariable
  /-- another kind with a name or an identifier -/
  | named (kind : Kind)
  /-- a kind that needs a number holds a text -/
  | notNumeric (kind : Kind)
  /-- a number is infinite or undefined -/
  | notFinite (kind : Kind)
  /-- the value is none of the operator symbols -/
  | unknownOperator (value : Content)
  /-- a text token that holds a number -/
  | notText
  deriving DecidableEq, Repr

def Fault.message : Fault → String
  | .unnamedVariable => "Variable token requires both name and id"
  | .named kind => kind.word ++ " token cannot carry name/id"
  | .notNumeric kind => kind.word ++ " token needs a numeric value"
  | .notFinite kind => kind.word ++ " token value must be finite"
  | .unknownOperator value =>
    match value.quoted? with
    | some symbol => "Unknown operator: " ++ symbol
    | none => integerLimitMessage ""
  | .notText => "text token needs a string value"

def Content.finite (kind : Kind) : Content → Except Fault Number
  | .text _ => .error (.notNumeric kind)
  | .number n => if n.isFinite then .ok n else .error (.notFinite kind)

/-- The fields that hold a text which is not empty. -/
def nonempty? : Option RawText → Option RawText
  | some s => if s = "" then none else some s
  | none => none

/-- The token that fields make. Names are checked before values. -/
def ofFields (f : Fields) : Except Fault Token :=
  match f.kind with
  | .variable =>
    match nonempty? f.name, nonempty? f.id with
    | some name, some id => (f.value.finite .variable).map (.variable id name)
    | _, _ => .error .unnamedVariable
  | kind =>
    if f.name.isSome || f.id.isSome then .error (.named kind)
    else
      match kind, f.value with
      | .number, value => (value.finite .number).map .number
      | .operator, .text s =>
        match s.toString?.bind Operator.ofSymbol? with
        | some op => .ok (.operator op)
        | none => .error (.unknownOperator (.text s))
      | .operator, value => .error (.unknownOperator value)
      | _, .text s => .ok (.text s)
      | _, .number _ => .error .notText

def fields : Token → Fields
  | .variable id name value => ⟨.variable, .number value, some name, some id⟩
  | .operator op => ⟨.operator, .text op.symbol, none, none⟩
  | .number value => ⟨.number, .number value, none, none⟩
  | .text s => ⟨.text, .text s, none, none⟩

end Token

end FormulaEditor
