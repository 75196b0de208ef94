import FormulaEditor.Server.Target

/-! # Routes

Each path has the methods that it answers to. A path that only differs from a known one by slashes
at its end is redirected.
-/

namespace FormulaEditor.Server

/-- What a request asks for. Positions are given as texts. -/
inductive Endpoint where
  | view
  | clear
  | setInput
  | pressKey
  | blur
  | pick (index : String)
  | token (index : String)
  | editToken (index : String)
  | deleteToken (index : String)
  | evaluate
  | suggestions
  | health
  /-- pages that describe the service -/
  | documentation
  deriving DecidableEq, Repr

/-- The paths of pages that describe the service. -/
def documentationPaths : List (List String) :=
  [["docs"], ["redoc"], ["openapi.json"], ["docs", "oauth2-redirect"]]

/-- The methods that a path answers to, the path being given by its segments. -/
def methodsAt (segments : List String) : List (String × Endpoint) :=
  match segments with
  | ["formula"] => [("GET", .view), ("DELETE", .clear)]
  | ["formula", "input"] => [("POST", .setInput)]
  | ["formula", "keys"] => [("POST", .pressKey)]
  | ["formula", "blur"] => [("POST", .blur)]
  | ["formula", "suggestions", index] => if index = "" then [] else [("POST", .pick index)]
  | ["formula", "tokens", index] =>
    if index = "" then []
    else [("GET", .token index), ("PUT", .editToken index), ("DELETE", .deleteToken index)]
  | ["evaluate"] => [("POST", .evaluate)]
  | ["suggestions"] => [("GET", .suggestions)]
  | ["health"] => [("GET", .health)]
  | segments =>
    if documentationPaths.contains segments then
      [("GET", .documentation), ("HEAD", .documentation)]
    else []

/-- The methods of a path without its first slash. -/
def methodsBehindSlash (path : List Char) : List (String × Endpoint) :=
  methodsAt ((Text.segments (· == '/') path).map String.ofList)

/-- The methods of a path. One line end behind a known path does not count. -/
def methodsOf (path : List Char) : List (String × Endpoint) :=
  match path with
  | '/' :: rest =>
    match methodsBehindSlash rest with
    | [] => if rest.getLast? = some '\n' then methodsBehindSlash rest.dropLast else []
    | methods => methods
  | _ => []

/-- Where a request leads. -/
inductive Resolution where
  | endpoint (e : Endpoint)
  | wrongMethod
  | redirect
  | unknown
  deriving DecidableEq, Repr

def dropSlashes (path : List Char) : List Char := (path.reverse.dropWhile (· == '/')).reverse

/-- Where a method and a path lead. -/
def resolve (method : String) (path : List Char) : Resolution :=
  match methodsOf path with
  | [] =>
    if path.getLast? = some '/' ∧ methodsOf (dropSlashes path) ≠ [] then .redirect else .unknown
  | methods =>
    match methods.lookup method with
    | some e => .endpoint e
    | none => .wrongMethod

end FormulaEditor.Server
