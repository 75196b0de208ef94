import FormulaEditor.Catalogue
import FormulaEditor.CommandLine.Arguments
import FormulaEditor.CommandLine.Dialogue
import FormulaEditor.Settings

/-! # Running the program

A run is a function of the arguments and of what surrounds the program: the environment, the text on
its standard input, the service that is asked, and the characters that the terminal can show.
-/

namespace FormulaEditor.CommandLine

/-! ## Surroundings and results -/

structure Surroundings where
  environment : List (String × String)
  input : String
  /-- what the service does with the requests -/
  script : List Remote.Reply
  encoding : Encoding

/-- A failure that ends the program. -/
inductive Crash where
  /-- a lookup failed in a way that nothing deals with -/
  | lookup (b : Remote.Breakdown)
  /-- the evaluation of a formula failed in a way that is not reported -/
  | evaluation (e : EvalError)
  /-- an option has no text where one is needed for an operation -/
  | noText (operation : String)
  /-- settings or variables are not valid -/
  | invalid (issues : List Issue)
  /-- there is no log level of this name -/
  | unknownLevel (level : String)
  /-- the time to wait is beyond the greatest binary number -/
  | longTimeout

/-- The wording of a failure; issues have their own. -/
def Crash.message : Crash → String
  | .lookup b => b.message
  | .evaluation e => e.message
  | .noText operation => "'list' object has no attribute '" ++ operation ++ "'"
  | .invalid _ => ""
  | .unknownLevel level => "Unknown level: " ++ Text.quoted level
  | .longTimeout => "int too large to convert to float"

/-- How a run ends: with a status, or with a failure. -/
inductive Finish where
  | status (code : Nat)
  | crash (c : Crash)

structure Run where
  printed : List Printed := []
  errors : String := ""
  finish : Finish

/-- A run that prints nothing and ends with a failure. -/
def Run.crashed (c : Crash) : Run := { finish := .crash c }

def Run.complaint (code : Nat) (line : String) : Run :=
  { errors := line ++ "\n", finish := .status code }

/-! ## Settings -/

def logLevels : List String :=
  ["CRITICAL", "FATAL", "ERROR", "WARN", "WARNING", "INFO", "DEBUG", "NOTSET"]

/-- The name of the log level: the one given, or else that of the settings, which are only looked at
in this case. -/
def logLevel (given : Option String) (w : Surroundings) : Except Crash String :=
  match given.getD "" with
  | "" =>
    ((Settings.ofEnvironment w.environment).mapError .invalid).map fun s => Text.upper s.logLevel
  | name => .ok (Text.upper name)

/-- Fails unless the log level is known. -/
def checkLogLevel (given : Option String) (w : Surroundings) : Except Crash Unit := do
  let level ← logLevel given w
  if logLevels.contains level then return ()
  else .error (.unknownLevel level)

/-- The service of the settings, at another address perhaps. -/
def serviceOf (w : Surroundings) (address : Option String) : Except Crash Service := do
  let s ← (Settings.ofEnvironment w.environment).mapError .invalid
  if s.timeoutFits then
    let url := match address.getD "" with
      | "" => s.backendUrl
      | given => given
    return { address := url, script := w.script }
  else .error .longTimeout

/-! ## Variables and bindings -/

/-- What is wrong with a pair of a key and a value: the line that tells it. -/
abbrev Complaint := String

/-- Why there is no editor. -/
inductive SetupFault where
  | complaint (line : Complaint)
  | crash (c : Crash)

/-- The pair that a text gives; the key is not empty and ends at the first equals sign. -/
def readPair (option : OptionSpec) (text : String) : Except Complaint (String × String) :=
  match splitEquals text.toList with
  | (c :: key, some value) => .ok (String.ofList (c :: key), String.ofList value)
  | _ =>
    .error ("Błąd: " ++ option.key ++ " oczekuje KLUCZ=WARTOŚĆ, otrzymano " ++ Text.quoted text)

def readPairs (option : OptionSpec) (values : List OptionValue) :
    Except SetupFault (List (String × String)) :=
  values.mapM fun
    | some text => (readPair option text).mapError .complaint
    | none => .error (.crash (.noText "partition"))

/-- The bindings that pairs give; values are binary numbers. -/
def readBindings (pairs : List (String × String)) : Except Complaint Bindings :=
  pairs.foldlM (fun (bindings : Bindings) (id, text) =>
    match LooseNumeral.readBinary64? text with
    | some x => .ok (bindings.bind id (.float x))
    | none =>
      .error ("Błąd: wartość zmiennej " ++ Text.quoted id ++ " nie jest liczbą: " ++
        Text.quoted text)) []

/-- The suggestions that pairs of identifiers and names give. -/
def readVariables (pairs : List (String × String)) : Except SetupFault (List Suggestion) :=
  pairs.mapM fun (id, name) =>
    (Suggestion.ofParts (.str id) (.str name)).mapError fun issues => .crash (.invalid issues)

/-- An editor for declared variables and bindings; it asks the service unless it is offline. -/
def setup (w : Surroundings) (offline : Bool) (declared bindings : List OptionValue) :
    Except SetupFault Editor := do
  let pairs ← readPairs variableOption declared
  let provider ←
    if offline then (readVariables pairs).map Provider.catalogue
    else ((serviceOf w none).mapError .crash).map Provider.service
  let bound ← readPairs bindingOption bindings
  let bindings ← (readBindings bound).mapError .complaint
  return { session := { bindings }, provider }

def SetupFault.run : SetupFault → Run
  | .complaint line => .complaint 1 line
  | .crash c => .crashed c

/-! ## Commands -/

def printVerdict (encoding : Encoding) (steps : Bool) (view : View) : Run :=
  let v := view.verdict
  let head : List Printed :=
    [tokenTable encoding view.formula, .line ("expression: " ++ encoding.shown view.expression),
      .line ("result:     " ++ v.display)]
  let shownSteps := if steps then v.steps else []
  let printed := head ++ shownSteps.map fun step => .line ("  " ++ encoding.shown step.text)
  match v.status, v.reason? with
  | .ok, _ => { printed, finish := .status 0 }
  | .unevaluable, some reason =>
    { printed, errors := "error:      " ++ reason ++ "\n", finish := .status 2 }
  | .unevaluable, none => { printed, finish := .status 2 }

/-- Types a text and prints the verdict. Without a text the standard input is typed. -/
def runEvaluate (w : Surroundings) (text : Option String)
    (declared bindings : List OptionValue) (steps : Bool) : Run :=
  let typed := match text.getD "" with
    | "" => Text.strip w.input
    | given => given
  if typed = "" then .complaint 1 "Błąd: podaj wyrażenie przez --text lub stdin"
  else
    match setup w true declared bindings with
    | .error fault => fault.run
    | .ok e =>
      match e.typeText typed with
      | (_, .error b) => .crashed (.lookup b)
      | (e, .ok ()) =>
        match e.session.view with
        | .ok view => printVerdict w.encoding steps view
        | .error cause => .crashed (.evaluation cause)

/-- Asks the service and prints what it finds. -/
def runSuggest (w : Surroundings) (query : OptionValue) (address : Option String) : Run :=
  match serviceOf w address, query with
  | .error c, _ => .crashed c
  | .ok _, none => .crashed (.noText "strip")
  | .ok service, some query =>
    match (service.lookup query).1.result with
    | .ok found => { printed := [suggestionTable w.encoding found none], finish := .status 0 }
    | .error b => .crashed (.lookup b)

/-- Runs the dialogue on the lines of the standard input. -/
def runDialogue (w : Surroundings) (offline : Bool) (declared bindings : List OptionValue) :
    Run :=
  match setup w offline declared bindings with
  | .error fault => fault.run
  | .ok e =>
    let (printed, result) := converse w.encoding e (linesOf w.input)
    { printed := .line dialogueHelp :: printed,
      finish := match result with
        | .ok () => .status 0
        | .error (.lookup b) => .crash (.lookup b)
        | .error (.evaluation e) => .crash (.evaluation e) }

def runCommand (w : Surroundings) : Command → Run
  | .evaluate text declared bindings steps => runEvaluate w text declared bindings steps
  | .suggest query address => runSuggest w query address
  | .dialogue offline declared bindings => runDialogue w offline declared bindings

/-- What is told about arguments that cannot be read. -/
def usage : String := "usage"

def run (arguments : List String) (w : Surroundings) : Run :=
  match readArguments arguments with
  | .error .help => { finish := .status 0 }
  | .error .usage => { errors := usage, finish := .status 2 }
  | .ok a =>
    match checkLogLevel a.logLevel w with
    | .error c => .crashed c
    | .ok () => runCommand w a.command

end FormulaEditor.CommandLine
