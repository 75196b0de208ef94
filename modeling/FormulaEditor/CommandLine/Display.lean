import FormulaEditor.Session.Basic

/-! # What the program prints

The program prints lines of text and tables. Characters that the terminal cannot show are replaced
by question marks where they come from data.
-/

namespace FormulaEditor.CommandLine

inductive Printed where
  | line (s : String)
  | table (title : String) (columns : List String) (rows : List (List String))
  deriving DecidableEq, Repr

/-- The characters that a terminal can show, by their number. -/
inductive Encoding where
  | all
  | below (bound : Nat)
  deriving DecidableEq, Repr

namespace Encoding

def ofName (name : String) : Encoding :=
  if name = "ascii" then .below 0x80
  else if name = "latin-1" then .below 0x100
  else .all

/-- The text as the terminal can show it. -/
def shown (encoding : Encoding) (s : RawText) : String :=
  match encoding with
  | .all => s.mended '?'
  | .below bound =>
    String.ofList ((s.mended '?').toList.map fun c => if c.toNat < bound then c else '?')

end Encoding

def orDash (s : RawText) : RawText := if s = .whole "" then "-" else s

def tokenRow (encoding : Encoding) (index : Nat) (t : Token) : List String :=
  let f := t.fields
  [toString index, f.kind.word, encoding.shown f.value.shown,
    encoding.shown (orDash (f.name.getD (.whole ""))),
    encoding.shown (orDash (f.id.getD (.whole "")))]

def tokenTable (encoding : Encoding) (ts : List Token) : Printed :=
  .table ("Tokens [" ++ toString ts.length ++ "]") ["#", "Kind", "Value", "Name", "ID"]
    (ts.mapIdx (tokenRow encoding))

/-- The row of a suggestion in a table, with a mark for the highlighted one. -/
def suggestionRow (encoding : Encoding) (highlighted : Option Int) (index : Nat)
    (s : Suggestion) : List String :=
  [if highlighted = some (index : Int) then ">" else "", toString index, encoding.shown s.id,
    encoding.shown s.name]

def suggestionTable (encoding : Encoding) (found : List Suggestion) (highlighted : Option Int) :
    Printed :=
  .table ("Suggestions [" ++ toString found.length ++ "]") ["", "#", "ID", "Name"]
    (found.mapIdx (suggestionRow encoding highlighted))

def printView (encoding : Encoding) (view : View) : List Printed :=
  [tokenTable encoding view.formula] ++
    (if view.suggestionsOpen then
      [suggestionTable encoding view.suggestions (some view.highlighted)]
    else []) ++
    [.line ("expression: " ++ encoding.shown (orDash view.expression)),
      .line ("pending:    " ++ view.pending.quoted),
      .line ("result:     " ++ view.verdict.display)] ++
    (match view.verdict.reason? with
      | some reason => [.line ("[dim]error:      " ++ encoding.shown reason ++ "[/dim]")]
      | none => [])

end FormulaEditor.CommandLine
