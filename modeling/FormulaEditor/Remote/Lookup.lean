import FormulaEditor.Address.Basic
import FormulaEditor.Json.Body
import FormulaEditor.Validation.Records

/-! # Looking up suggestions at a service

A lookup sends the typed text to a service and searches what comes back. Whatever goes wrong on the
way gives no suggestions and one warning, except for failures that are not of the way itself, which
end the lookup. Entries that are no suggestions are skipped with a warning each.
-/

namespace FormulaEditor.Remote

/-! ## What a service does -/

/-- A failure of the service in place of a reply. -/
inductive Failure where
  /-- a failure on the way to the service, by its name -/
  | transport (name : String)
  /-- a value that cannot be dealt with -/
  | value (message : String)
  /-- a failure of another kind, which no lookup deals with -/
  | other (message : String)
  deriving DecidableEq, Repr

/-- What a service does with a request. -/
inductive Reply where
  | response (status : Int) (body : String)
  | failure (f : Failure)
  deriving DecidableEq, Repr

/-- Why a lookup found nothing. -/
inductive LookupFault where
  /-- the address cannot be asked -/
  | invalidAddress
  /-- a code in the host stands for no label -/
  | badCode (fault : Hostname.Fault)
  /-- the address has no scheme or no host -/
  | relativeAddress
  | transport (name : String)
  | value (message : String)
  /-- the service answered with a status that is no success -/
  | status (code : Int)
  /-- the bytes of the answer are no text -/
  | undecodable
  /-- the answer is no JSON -/
  | unreadable
  /-- the answer holds a whole number that is too long -/
  | longInteger
  | noList
  deriving DecidableEq, Repr

/-- A warning that a lookup gives. -/
inductive Warning where
  /-- there is no address to ask -/
  | noAddress
  | failed (fault : LookupFault)
  /-- an entry of the answer is no suggestion -/
  | skippedEntry
  deriving DecidableEq, Repr

/-- A failure that ends a lookup and whatever has started it. -/
inductive Breakdown where
  /-- a failure of a kind that no lookup deals with -/
  | other (message : String)
  /-- the answer nests too deep -/
  | tooDeep (container : Json.Container)
  deriving DecidableEq, Repr

def Breakdown.message : Breakdown → String
  | .other message => message
  | .tooDeep container => (Json.ReadError.tooDeep container).message ""

/-- What a lookup did: its result, the parameters of each request it sent, and its warnings. -/
structure Report where
  /-- the suggestions, or the failure that ended the lookup -/
  result : Except Breakdown (List Suggestion)
  requests : List (List (String × String)) := []
  warnings : List Warning := []

/-! ## Reading an answer -/

def isSuccess (status : Int) : Bool := decide (200 ≤ status) && decide (status ≤ 299)

/-- The list in an answer: the answer itself, or a member of it. -/
def listOf? (v : Json) : Option (List Json) :=
  let payload :=
    match v with
    | .obj members =>
      -- A result that is null or no list is not passed over.
      match Json.member? members "result" with
      | some inner => some inner
      | none => Json.member? members "items"
    | v => some v
  match payload with
  | some (.arr items) => some items
  | _ => none

/-- Why an answer has no entries. -/
inductive AnswerFault where
  | fault (f : LookupFault)
  | breakdown (b : Breakdown)
  deriving DecidableEq, Repr

/-- What follows from a body that is no value. -/
def AnswerFault.ofBody : Json.BodyFault → AnswerFault
  | .undecodable => .fault .undecodable
  | .malformed _ => .fault .unreadable
  | .longInteger => .fault .longInteger
  | .tooDeep container => .breakdown (.tooDeep container)

def entries (status : Int) (body : String) : Except AnswerFault (List Json) :=
  if !isSuccess status then .error (.fault (.status status))
  else
    match Json.readBody body with
    | .error e => .error (.ofBody e)
    | .ok v =>
      match listOf? v with
      | some items => .ok items
      | none => .error (.fault .noList)

def validEntries (items : List Json) : List Suggestion :=
  items.filterMap fun item => (Suggestion.ofJson item).toOption

/-- One warning for each entry that is none. -/
def skipWarnings (items : List Json) : List Warning :=
  items.filterMap fun item =>
    match Suggestion.ofJson item with
    | .ok _ => none
    | .error _ => some .skippedEntry

/-! ## Asking -/

def parameters (query : String) : List (String × String) := [("query", query)]

/-- The character stands for itself in a parameter. -/
def parameterSafe (c : Char) : Bool :=
  Address.isPlainAlphanum c || ['-', '.', '_', '~'].contains c

/-- The parameter of a query as it is written into an address. -/
def writtenParameter (query : String) : List Char :=
  "query=".toList ++
    query.toList.flatMap fun c =>
      if c = ' ' then ['+'] else if parameterSafe c then [c] else Address.percentEncode c

/-- The parts of an address, written out with a query, are not too long. An address without scheme
or host has only the parts behind the host. -/
def checkParts (a : Address) (query : String) : Except Address.Fault Unit := do
  if a.isAbsolute then
    Address.checkLength "authority" a.authority
    let _ ← Address.sentHost a.bracketedHost
    Address.checkLength "path" (Address.quote Address.pathSafe a.path)
    Address.checkLength "fragment" (Address.quote Address.fragmentSafe (a.fragment.getD []))
  else
    Address.checkLength "path" (Address.quote Address.pathSafe a.rootedPath)
    Address.checkLength "query" (Address.quote Address.querySafe (a.query.getD []))
  Address.checkLength "query" (writtenParameter query)

/-- The address that is asked; codes are looked at when it names a host. -/
def askable (url query : String) : Except LookupFault Address := do
  let a ← (Address.read url).mapError fun _ => .invalidAddress
  (checkParts a query).mapError fun _ => .invalidAddress
  if a.isAbsolute then a.checkCodes.mapError .badCode
  return a

/-! ## Lookups -/

/-- The report of a lookup that found nothing for a reason. -/
def Report.failed (requests : List (List (String × String))) (fault : LookupFault) : Report :=
  { result := .ok [], requests, warnings := [.failed fault] }

/-- Deals with what the service does, the request having been sent. A response to an address
without scheme or host cannot be taken. -/
def receive (a : Address) (query : String) (reply : Reply) : Report :=
  let requests := [parameters query]
  match reply with
  | .failure (.other message) => { result := .error (.other message), requests }
  | .failure (.transport name) => .failed requests (.transport name)
  | .failure (.value message) => .failed requests (.value message)
  | .response status body =>
    if !a.isAbsolute then .failed requests .relativeAddress
    else
      match entries status body with
      | .error (.fault f) => .failed requests f
      | .error (.breakdown b) => { result := .error b, requests }
      | .ok items =>
        { result := .ok (Suggestion.search (validEntries items) query), requests,
          warnings := skipWarnings items }

/-- Looks up a query at an address, `reply` being what the service does if it is asked. -/
def lookup (address query : String) (reply : Reply) : Report :=
  let url := Text.strip address
  if Text.isBlankText query then { result := .ok [] }
  else if url = "" then { result := .ok [], warnings := [.noAddress] }
  else
    match askable url query with
    | .ok a => receive a query reply
    | .error fault => .failed [] fault

end FormulaEditor.Remote
