import FormulaEditor.Remote.Lookup
import FormulaEditor.Suggestion

/-! # Providers of suggestions

Suggestions come from a catalogue, which is searched at once and never fails, or from a service. How
a service behaves is given as a script: the nth request gets the nth reply, the last one again and
again.
-/

namespace FormulaEditor

/-- A service that behaves as scripted. -/
structure Service where
  address : String
  script : List Remote.Reply
  /-- the number of requests that have been sent -/
  asked : Nat := 0
  deriving DecidableEq, Repr

namespace Service

/-- What the service does with the next request. A service without a script cannot be reached. -/
def nextReply (s : Service) : Remote.Reply :=
  match s.script[s.asked]? with
  | some reply => reply
  | none => s.script.getLast?.getD (.failure (.transport "ConnectError"))

/-- Looks up a query. -/
def lookup (s : Service) (query : String) : Remote.Report × Service :=
  let report := Remote.lookup s.address query s.nextReply
  (report, { s with asked := s.asked + report.requests.length })

end Service

/-- Where suggestions come from. -/
inductive Provider where
  | catalogue (suggestions : List Suggestion)
  | service (s : Service)
  deriving Inhabited

namespace Provider

/-- Looks up a query: the suggestions found, or the failure that ended the lookup. A torn query is
in no name and cannot be sent. -/
def lookup : Provider → RawText → Except Remote.Breakdown (List Suggestion) × Provider
  | provider, .torn .. => (.ok [], provider)
  | .catalogue suggestions, .whole query =>
    (.ok (Suggestion.search suggestions query), .catalogue suggestions)
  | .service s, .whole query =>
    let (report, s) := s.lookup query
    (report.result, .service s)

end Provider

end FormulaEditor
