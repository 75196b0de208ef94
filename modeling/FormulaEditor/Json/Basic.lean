import FormulaEditor.Number
import FormulaEditor.Text.RawText

/-! # Structured data

Values of JSON. Numbers keep the difference between whole and binary numbers, and the members of an
object, one for each name, keep their order. Texts and names may be torn, since they can be given by
escapes.
-/

namespace FormulaEditor

/-- A value of JSON. -/
inductive Json where
  | null
  | bool (b : Bool)
  | number (n : Number)
  | str (s : RawText)
  | arr (items : List Json)
  | obj (members : List (RawText × Json))
  deriving Repr, Inhabited

namespace Json

def int (n : Int) : Json := .number (.int n)

/-- A text, or null for none. -/
def ofText? : Option RawText → Json
  | some s => .str s
  | none => .null

def member? (members : List (RawText × Json)) (name : String) : Option Json :=
  members.lookup (.whole name)

/-- The members without those that a later one of the same name replaces; a name keeps the place
where it came first. -/
def distinct (members : List (RawText × Json)) : List (RawText × Json) :=
  members.foldl (fun kept m =>
    if kept.any (·.1 == m.1) then kept.map fun k => if k.1 == m.1 then m else k
    else kept ++ [m]) []

mutual

/-- An infinite or undefined number occurs somewhere in the value. -/
def hasNonFinite : Json → Bool
  | .number n => !n.isFinite
  | .arr items => anyNonFinite items
  | .obj members => anyMemberNonFinite members
  | _ => false

/-- An infinite or undefined number occurs in one of the values. -/
def anyNonFinite : List Json → Bool
  | [] => false
  | item :: rest => item.hasNonFinite || anyNonFinite rest

/-- An infinite or undefined number occurs in one of the members. -/
def anyMemberNonFinite : List (RawText × Json) → Bool
  | [] => false
  | (_, item) :: rest => item.hasNonFinite || anyMemberNonFinite rest

end

end Json

end FormulaEditor
