import FormulaEditor.CommandLine.Display
import FormulaEditor.Decimal.LooseNumeral
import FormulaEditor.Session.Typing

/-! # The dialogue

Each line is a command, a key, or the text of the input. After a line the session is shown, unless
the line was not understood or asked for something else to be shown.
-/

namespace FormulaEditor.CommandLine

/-- What the dialogue explains about itself. -/
def dialogueHelp : String := "\n".intercalate [
  "Wpisz tekst, aby ustawić pole wejściowe (pojedynczy operator = klawisz).",
  "  :enter :up :down :esc :bs   klawisze",
  "  :pick N                     kliknij podpowiedź N",
  "  :edit N TEKST               podmień token N",
  "  :del N                      usuń token N",
  "  :props N                    pokaż token N",
  "  :clear                      wyczyść formułę",
  "  :blur                       zamknij podpowiedzi (utrata fokusu)",
  "  :quit                       wyjście"]

/-! ## Lines -/

/-- What a line of the dialogue means. -/
inductive Line where
  | quit
  | key (k : Key)
  | clear
  | blur
  | pick (index : Int)
  | edit (index : Int) (text : String)
  | delete (index : Int)
  | properties (index : Int)
  | unclear
  | input (text : String)
  deriving DecidableEq, Repr

def keyCommands : List (String × Key) := [
  (":enter", .enter), (":up", .arrowUp), (":down", .arrowDown), (":esc", .escape),
  (":bs", .backspace)]

def indexedCommand (command : String) (index : Int) (text : Option String) : Line :=
  match command, text with
  | ":pick", _ => .pick index
  | ":del", _ => .delete index
  | ":edit", some text => .edit index text
  | ":props", _ => .properties index
  | _, _ => .unclear

/-- A command of several words, the second one being a position. -/
def readCommandLine (s : List Char) : Line :=
  match Text.nextWord? s with
  | none => .unclear
  | some (command, afterCommand) =>
    match Text.nextWord? afterCommand with
    | none => .unclear
    | some (index, text) =>
      match LooseNumeral.readInt? (String.ofList index) with
      | none => .unclear
      | some index =>
        indexedCommand (String.ofList command) index
          (if text.isEmpty then none else some (String.ofList text))

/-- What a line means. Blanks around it count only in the text of the input. -/
def Line.ofString (line : String) : Line :=
  let command := Text.strip line
  if command = ":quit" ∨ command = ":q" then .quit
  else
    match keyCommands.lookup command, Operator.ofSymbol? command with
    | some k, _ => .key k
    | none, some op => .key (.operator op)
    | none, none =>
      if command = ":clear" then .clear
      else if command = ":blur" then .blur
      else if command.toList.head? = some ':' then readCommandLine command.toList
      else .input line

/-! ## Carrying out lines -/

/-- What ends a dialogue before its last line. -/
inductive Interruption where
  /-- a lookup failed in a way that nothing deals with -/
  | lookup (b : Remote.Breakdown)
  /-- the evaluation of the formula failed in a way that is not reported -/
  | evaluation (e : EvalError)

/-- What a line did: the editor behind it, or the failure that ended the dialogue, and what was
printed. -/
structure Turn where
  result : Except Interruption Editor
  printed : List Printed

/-- The session is shown behind what else is printed. -/
def Turn.shown (encoding : Encoding) (e : Editor) (printed : List Printed) : Turn :=
  match e.session.view with
  | .ok view => ⟨.ok e, printed ++ printView encoding view⟩
  | .error cause => ⟨.error (.evaluation cause), printed⟩

/-- The line that tells that there is nothing at a position. -/
def noPlace (index : Int) : Printed :=
  .line ("[yellow]Brak pozycji " ++ toString index ++ ".[/yellow]")

/-- The session that an operation on a position gives, or the news that there is no such
position. -/
def atPlace (encoding : Encoding) (e : Editor) (index : Int) : Option Session → Turn
  | some session => .shown encoding { e with session } []
  | none => .shown encoding e [noPlace index]

/-- Carries out a line; none ends the dialogue. -/
def turn? (encoding : Encoding) (e : Editor) : Line → Option Turn
  | .quit => none
  | .key k => some (.shown encoding (e.press k) [])
  | .clear => some (.shown encoding { e with session := e.session.clear } [])
  | .blur => some (.shown encoding { e with session := e.session.blur } [])
  | .pick index => some (atPlace encoding e index (e.session.pick? index))
  | .edit index text => some (atPlace encoding e index (e.session.editToken? index text))
  | .delete index => some (atPlace encoding e index (e.session.deleteToken? index))
  | .properties index =>
    match e.session.tokenAt? index with
    | some t => some ⟨.ok e, [tokenTable encoding [t]]⟩
    | none => some (.shown encoding e [noPlace index])
  | .unclear => some ⟨.ok e, [.line dialogueHelp]⟩
  | .input text =>
    match e.setInput text with
    | (e, .ok _) => some (.shown encoding e [])
    | (_, .error b) => some ⟨.error (.lookup b), []⟩

/-- Carries out lines up to the end, or up to a failure. -/
def converse (encoding : Encoding) (e : Editor) :
    List String → List Printed × Except Interruption Unit
  | [] => ([], .ok ())
  | line :: rest =>
    match turn? encoding e (Line.ofString line) with
    | none => ([], .ok ())
    | some ⟨.error i, printed⟩ => (printed, .error i)
    | some ⟨.ok e, printed⟩ =>
      let (more, result) := converse encoding e rest
      (printed ++ more, result)

/-- The lines of a text; a line end at the very end starts no further line. -/
def linesOf (s : String) : List String :=
  let lines := s.splitOn "\n"
  if lines.getLast? = some "" then lines.dropLast else lines

end FormulaEditor.CommandLine
