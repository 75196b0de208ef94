import FormulaEditor.Text.Case
import FormulaEditor.Validation.Coercion

/-! # Settings

Where suggestions are asked for, how long to wait, how much to log, and what the service calls
itself. Each setting has a default and can be given by a variable of the environment, whose name is
that of the setting behind a common start, in any mixture of cases.
-/

namespace FormulaEditor

structure Settings where
  backendUrl : String := "https://652f91320b8d8ddac0b2b62b.mockapi.io/autocomplete"
  /-- the time to wait for suggestions, in milliseconds -/
  timeoutMs : Int := 5000
  logLevel : String := "INFO"
  appTitle : String := "FormulaBox"
  appVersion : String := "0.1.0"
  deriving DecidableEq, Repr, Inhabited

namespace Settings

/-- The start of the names of variables, in lower case. -/
def variableStart : String := "formulabox_"

/-- The settings that a record gives. -/
def ofMembers (members : List (RawText × Json)) : Checked Settings :=
  let standard : Settings := {}
  (Checked.both
    (Checked.optional members "suggestion_backend_url" standard.backendUrl Coercion.string)
    (Checked.both
      (Checked.optional members "suggestion_timeout_ms" standard.timeoutMs Coercion.int)
      (Checked.both (Checked.optional members "log_level" standard.logLevel Coercion.string)
        (Checked.both (Checked.optional members "app_title" standard.appTitle Coercion.string)
          (Checked.optional members "app_version" standard.appVersion Coercion.string))))).map
    fun (backendUrl, timeoutMs, logLevel, appTitle, appVersion) =>
      ⟨backendUrl, timeoutMs, logLevel, appTitle, appVersion⟩

def lowerName : RawText → RawText
  | .whole name => .whole (Text.lower name)
  | name => name

/-- The settings that a record gives whose names may be in any mixture of cases; of two members for
one setting the last one counts. -/
def ofLooseMembers (members : List (RawText × Json)) : Checked Settings :=
  ofMembers (Json.distinct (members.map fun (name, value) => (lowerName name, value)))

/-- The time to wait can be reckoned with. -/
def timeoutFits (s : Settings) : Bool := (Binary64.ofRat s.timeoutMs).isFinite

def settingOf? (variableName : String) : Option String :=
  let name := (Text.lower variableName).toList
  if variableStart.toList.isPrefixOf name then
    some (String.ofList (name.drop variableStart.length))
  else none

/-- The settings that an environment gives; of two variables for one setting the last one
counts. -/
def ofEnvironment (assignments : List (String × String)) : Checked Settings :=
  ofMembers (Json.distinct (assignments.filterMap fun (name, value) =>
    (settingOf? name).map fun setting => (.whole setting, .str (.whole value))))

def toJson (s : Settings) : Json :=
  .obj [("suggestion_backend_url", .str s.backendUrl),
    ("suggestion_timeout_ms", .int s.timeoutMs), ("log_level", .str s.logLevel),
    ("app_title", .str s.appTitle), ("app_version", .str s.appVersion)]

end Settings

end FormulaEditor
