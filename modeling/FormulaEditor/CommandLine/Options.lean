import FormulaEditor.Text.Basic

/-! # Options

The arguments of a command are options with or without a value, and other values. An option may be
shortened as long as it stays the only one; a value may be attached to it. Values that start with a
dash are taken for options, except numbers and texts with a space. Two dashes attached to an option
are no text, and leave it without one.
-/

namespace FormulaEditor.CommandLine

/-! ## Options and arguments -/

/-- An option: its names, with their dashes, and whether a value follows it. -/
structure OptionSpec where
  names : List String
  takesValue : Bool
  deriving DecidableEq, Repr

/-- The name by which an option is known: its first one. -/
def OptionSpec.key (spec : OptionSpec) : String := spec.names.headD ""

def help : OptionSpec := ⟨["--help", "-h"], false⟩

/-- How reading arguments ends early. -/
inductive Ending where
  | help
  | usage
  deriving DecidableEq, Repr

inductive ArgumentKind where
  | value
  /-- two dashes alone; all that follow are values -/
  | separator
  /-- it looks like an option, and is none -/
  | unknown
  /-- an option under one of its names, perhaps with a value attached -/
  | option (spec : OptionSpec) (name : List Char) (attached : Option (List Char))
  deriving DecidableEq, Repr

/-! ## Telling options from values -/

def namedSpecs (specs : List OptionSpec) : List (OptionSpec × List Char) :=
  specs.flatMap fun spec => spec.names.map fun name => (spec, name.toList)

def fullName? (specs : List OptionSpec) (name : List Char) : Option (OptionSpec × List Char) :=
  (namedSpecs specs).find? (·.2 == name)

/-- The text before the first equals sign, and the text behind it if there is one. -/
def splitEquals (s : List Char) : List Char × Option (List Char) :=
  match s.dropWhile (· != '=') with
  | [] => (s, none)
  | _ :: value => (s.takeWhile (· != '='), some value)

def isLong (name : List Char) : Bool := "--".toList.isPrefixOf name

/-- The options that an argument can be short for. Behind a short name stands its value. -/
def candidates (specs : List OptionSpec) (argument : List Char) : List ArgumentKind :=
  if isLong argument then
    let (start, attached) := splitEquals argument
    (namedSpecs specs).filterMap fun (spec, name) =>
      if start.isPrefixOf name then some (.option spec name attached) else none
  else
    (namedSpecs specs).filterMap fun (spec, name) =>
      if name = argument.take 2 then some (.option spec name (some (argument.drop 2)))
      else if argument.isPrefixOf name then some (.option spec name none)
      else none

/-- All characters are digits, of any script, and there is one. -/
def isDigits (s : List Char) : Bool := !s.isEmpty && s.all fun c => (Text.digit? c).isSome

/-- The text without one line end behind it. -/
def dropLineEnd (s : List Char) : List Char := if s.getLast? = some '\n' then s.dropLast else s

/-- A dash and a number: digits, or a point with digits behind it. One line end behind it does not
count. -/
def isNegativeNumber (argument : List Char) : Bool :=
  match dropLineEnd argument with
  | '-' :: rest =>
    match rest.dropWhile (· != '.') with
    | [] => isDigits rest
    | _ :: fraction =>
      isDigits fraction && (rest.takeWhile (· != '.')).all fun c => (Text.digit? c).isSome
  | _ => false

/-- What an argument is. One that is short for several options is an error. -/
def kindOf (specs : List OptionSpec) (argument : List Char) : Except Ending ArgumentKind :=
  match argument with
  | '-' :: _ :: _ =>
    match fullName? specs argument with
    | some (spec, name) => .ok (.option spec name none)
    | none =>
      -- A full name may have its value behind an equals sign.
      let (start, attached) := splitEquals argument
      match (if attached.isSome then fullName? specs start else none) with
      | some (spec, name) => .ok (.option spec name attached)
      | none =>
        match candidates specs argument with
        | [one] => .ok one
        | [] =>
          -- Negative numbers and arguments with a space are values after all.
          .ok (if isNegativeNumber argument || argument.contains ' ' then .value else .unknown)
        | _ => .error .usage
  | _ => .ok .value

def kindsOf (specs : List OptionSpec) : List String →
    Except Ending (List (String × ArgumentKind))
  | [] => .ok []
  | "--" :: rest => .ok (("--", .separator) :: rest.map (·, .value))
  | argument :: rest => do
    let kind ← kindOf specs argument.toList
    let more ← kindsOf specs rest
    return (argument, kind) :: more

/-! ## Reading options -/

/-- The value of an option: a text, or nothing when two dashes alone were attached to it. Options
without value have nothing too. -/
abbrev OptionValue := Option String

/-- What the arguments give: options by key with their values, in order, and whether there was
anything that belongs nowhere. -/
structure Given where
  options : List (String × OptionValue) := []
  hasStrays : Bool := false
  /-- the arguments from the first value on, when reading stops there -/
  rest : List String := []

def valueOfAttached (text : List Char) : OptionValue :=
  if text = "--".toList then none else some (String.ofList text)

/-- The options that one argument means, and the text attached to the last one. -/
structure Cluster where
  found : List OptionSpec
  attached : Option (List Char)

/-- The options that an argument means. To a short option without value further short options may be
attached, the last of them with a text of its own. -/
def cluster (specs : List OptionSpec) (spec : OptionSpec) (name : List Char) :
    (attached : Option (List Char)) → Except Ending Cluster
  | none => .ok ⟨[spec], none⟩
  | some text =>
    if spec.takesValue then .ok ⟨[spec], some text⟩
    else if isLong name then .error .usage
    else
      match text with
      | [] => .error .usage
      | c :: more =>
        match fullName? specs ['-', c] with
        | none => .error .usage
        | some (next, nextName) =>
          match more with
          | [] => .ok ⟨[spec, next], none⟩
          | d :: further =>
            (cluster specs next nextName (some (d :: further))).map fun r =>
              { r with found := spec :: r.found }
termination_by attached => (attached.getD []).length

/-- Options, the last of which has a value perhaps; asking for help ends reading. -/
def record (found : List OptionSpec) (value : OptionValue) (rest : Except Ending Given) :
    Except Ending Given :=
  if found.contains help then .error .help
  else rest.map fun g =>
    { g with options := found.map (fun spec => (spec.key, value)) ++ g.options }

/-- The last of the options takes a value. -/
def wantsValue (found : List OptionSpec) : Bool :=
  match found.getLast? with
  | some spec => spec.takesValue
  | none => false

/-- Notes that there was something that belongs nowhere. -/
def Given.withStray (g : Given) : Given := { g with hasStrays := true }

/-- Reads options; at the first value reading stops if `toValue` is set, and otherwise values are
strays. -/
def readOptions (specs : List OptionSpec) (toValue : Bool) :
    List (String × ArgumentKind) → Except Ending Given
  | [] => .ok {}
  | (argument, kind) :: rest =>
    match kind with
    | .value =>
      -- The first value is the command, and what follows is for the command to read.
      if toValue then .ok { rest := argument :: rest.map (·.1) }
      else (readOptions specs toValue rest).map Given.withStray
    | .separator =>
      if toValue then .error .usage else (readOptions specs toValue rest).map Given.withStray
    | .unknown => (readOptions specs toValue rest).map Given.withStray
    | .option spec name attached =>
      match cluster specs spec name attached with
      | .error e => .error e
      | .ok ⟨found, some text⟩ =>
        record found (valueOfAttached text) (readOptions specs toValue rest)
      | .ok ⟨found, none⟩ =>
        if wantsValue found then
          match rest with
          | (value, .value) :: rest => record found (some value) (readOptions specs toValue rest)
          | _ => .error .usage
        else record found none (readOptions specs toValue rest)

def given (specs : List OptionSpec) (toValue : Bool) (arguments : List String) :
    Except Ending Given := do
  readOptions specs toValue (← kindsOf specs arguments)

namespace Given

/-- The last value of an option, if the option was given. -/
def last? (g : Given) (spec : OptionSpec) : Option OptionValue :=
  g.options.reverse.lookup spec.key

def text? (g : Given) (spec : OptionSpec) : Option String := (g.last? spec).join

def all (g : Given) (spec : OptionSpec) : List OptionValue :=
  (g.options.filter (·.1 == spec.key)).map (·.2)

def has (g : Given) (spec : OptionSpec) : Bool := g.options.any (·.1 == spec.key)

end Given

end FormulaEditor.CommandLine
