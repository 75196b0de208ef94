import FormulaEditor.Address.Basic
import FormulaEditor.Text.Percent

/-! # Targets of requests

The target of a request is an address, or a path at the service itself, perhaps with a query. Path
and query are decoded, the path once on its way and once on arrival.
-/

namespace FormulaEditor.Server

structure Target where
  path : List Char
  /-- the parameters of the query in their order -/
  query : List (List Char × List Char)

/-- Why a request cannot be sent to a target. -/
inductive TargetFault where
  | address (f : Address.Fault)
  /-- a code in the host that stands for no label -/
  | code (f : Hostname.Fault)
  /-- no requests are sent with this scheme -/
  | scheme (name : List Char)
  /-- the text behind the first colon of the host is no port -/
  | port (text : List Char)
  deriving DecidableEq, Repr

def TargetFault.message : TargetFault → String
  | .address f => f.message
  | .code f => f.message
  | .scheme name => Text.quoted (String.ofList name)
  | .port text =>
    "invalid literal for int() with base 10: " ++ Text.quoted (String.ofList text)

def schemes : List String := ["http", "ws", "https", "wss"]

/-- The text of a part of a query, where a plus sign stands for a space. -/
def decodeQueryPart (s : List Char) : List Char :=
  Text.percentDecode (s.map fun c => if c = '+' then ' ' else c)

/-- The parameter of a part of a query; a name without a value has an empty one. -/
def parameter? (part : List Char) : Option (List Char × List Char) :=
  if part.isEmpty then none
  else
    some (decodeQueryPart (part.takeWhile (· != '=')),
      decodeQueryPart ((part.dropWhile (· != '=')).drop 1))

/-- Checks that a request can be sent to an address with a host of its own. -/
def checkSending (a : Address) : Except TargetFault Unit := do
  a.checkCodes.mapError .code
  let scheme := a.scheme.map Char.toLower
  if !schemes.contains (String.ofList scheme) then throw (.scheme scheme)
  if a.host.contains ':' then
    throw (.port ((a.place.dropWhile (· != ':')).drop 1))

/-- Checks that a path at the service is not too long. -/
def checkPart (part : String) (written : List Char) : Except TargetFault Unit :=
  (Address.checkLength part written).mapError .address

def pathOf (a : Address) : Except TargetFault (List Char) := do
  if a.isAbsolute then
    checkSending a
    return if a.path.isEmpty then ['/'] else a.path
  else
    checkPart "path" (Address.quote Address.pathSafe a.rootedPath)
    checkPart "query" (Address.quote Address.querySafe (a.query.getD []))
    return Address.resolveDots a.rootedPath

def Target.ofString (s : String) : Except TargetFault Target := do
  let a ← (Address.read s).mapError .address
  let path ← pathOf a
  return ⟨Text.percentDecode (Text.percentDecode path),
    (Text.segments (· == '&') (a.query.getD [])).filterMap parameter?⟩

/-- The last value of a parameter, if there is one. -/
def Target.last? (t : Target) (name : String) : Option String :=
  (t.query.reverse.lookup name.toList).map String.ofList

end FormulaEditor.Server
