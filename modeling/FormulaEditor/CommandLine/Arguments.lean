import FormulaEditor.CommandLine.Options

/-! # Arguments of the program

The program has three commands: one evaluates a text, one asks for suggestions, one runs a dialogue.
-/

namespace FormulaEditor.CommandLine

/-! ## Options of the commands -/

def logLevelOption : OptionSpec := ⟨["--log-level"], true⟩

def textOption : OptionSpec := ⟨["--text", "-t"], true⟩

/-- A variable that can be suggested, by identifier and name. -/
def variableOption : OptionSpec := ⟨["--var"], true⟩

/-- The value of a variable, by identifier. -/
def bindingOption : OptionSpec := ⟨["--bind"], true⟩

/-- Whether to show the steps of a computation. -/
def stepsOption : OptionSpec := ⟨["--steps"], false⟩

/-- The text to find suggestions for. -/
def queryOption : OptionSpec := ⟨["--query", "-q"], true⟩

def addressOption : OptionSpec := ⟨["--url"], true⟩

/-- Whether to suggest only the variables that are given. -/
def offlineOption : OptionSpec := ⟨["--offline"], false⟩

/-! ## Commands -/

/-- A command with its arguments; declared variables and bindings are still texts. -/
inductive Command where
  | evaluate (text : Option String) (declared bindings : List OptionValue) (steps : Bool)
  | suggest (query : OptionValue) (address : Option String)
  | dialogue (offline : Bool) (declared bindings : List OptionValue)
  deriving DecidableEq, Repr

structure Arguments where
  logLevel : Option String
  command : Command
  deriving DecidableEq, Repr

/-- A command and whether its arguments hold strays. -/
def readCommand (name : String) (arguments : List String) : Except Ending (Command × Bool) :=
  match name with
  | "eval" => do
    let g ← given [help, textOption, variableOption, bindingOption, stepsOption] false arguments
    return (.evaluate (g.text? textOption) (g.all variableOption) (g.all bindingOption)
      (g.has stepsOption), g.hasStrays)
  | "suggest" => do
    let g ← given [help, queryOption, addressOption] false arguments
    match g.last? queryOption with
    | some query => return (.suggest query (g.text? addressOption), g.hasStrays)
    | none => .error .usage
  | "repl" => do
    let g ← given [help, offlineOption, variableOption, bindingOption] false arguments
    return (.dialogue (g.has offlineOption) (g.all variableOption) (g.all bindingOption),
      g.hasStrays)
  | _ => .error .usage

/-- The arguments of the program: options, then a command with its own. Strays are an error once
everything else has been read. -/
def readArguments (arguments : List String) : Except Ending Arguments := do
  let g ← given [help, logLevelOption] true arguments
  match g.rest with
  | [] => .error .usage
  | name :: rest =>
    let (command, strays) ← readCommand name rest
    if g.hasStrays || strays then .error .usage
    else return ⟨g.text? logLevelOption, command⟩

end FormulaEditor.CommandLine
