import FormulaEditor.Decimal.Numeral
import FormulaEditor.Text.Basic

/-! # Numeric addresses

A host can be given by four numbers with points between them, or by groups of digits of base sixteen
with colons between them, a gap standing for groups of zeros.
-/

namespace FormulaEditor.Address

/-! ## Four numbers -/

def looksLikeFourNumbers (host : List Char) : Bool :=
  let parts := Text.segments (· == '.') host
  parts.length == 4 && parts.all fun part => !part.isEmpty && part.all Char.isDigit

/-- A number from 0 to 255 without leading zeros. -/
def isOctet (s : List Char) : Bool :=
  !s.isEmpty && s.length ≤ 3 && s.all Char.isDigit && (s.length == 1 || s.head? != some '0') &&
    (match Numeral.takeDigits Text.plainDigit? s with
      | (digits, _) => decide (Numeral.ofDigits digits ≤ 255))

def isFourNumbers (host : List Char) : Bool :=
  let parts := Text.segments (· == '.') host
  parts.length == 4 && parts.all isOctet

/-! ## Groups -/

/-- One to four digits of base sixteen. -/
def isHexGroup (s : List Char) : Bool :=
  !s.isEmpty && s.length ≤ 4 &&
    s.all fun c => c.isDigit || ('a' ≤ c && c ≤ 'f') || ('A' ≤ c && c ≤ 'F')

/-- The groups of a written address, a final address of four numbers counting as two; none when
that is none. -/
def hexGroups? (s : List Char) : Option (List (List Char)) :=
  let parts := Text.segments (· == ':') s
  match parts.reverse with
  | [] => none
  | last :: before =>
    if last.contains '.' then
      if isFourNumbers last then some (before.reverse ++ [['0'], ['0']]) else none
    else some parts

/-- The groups are eight, or fewer with one gap; a gap at an end is two empty groups, one inside is
one. -/
def isHexAddress (groups : List (List Char)) : Bool :=
  let inner := (groups.drop 1).dropLast
  let gaps := (inner.filter List.isEmpty).length
  let startsEmpty := groups.head? == some []
  let endsEmpty := groups.getLast? == some []
  let filled := groups.filter (!·.isEmpty)
  3 ≤ groups.length && groups.length ≤ 9 && filled.all isHexGroup &&
    (if gaps == 0 then groups.length == 8 && !startsEmpty && !endsEmpty
    else
      gaps == 1 && filled.length ≤ 7 &&
        (!startsEmpty || groups[1]? == some []) &&
        (!endsEmpty || groups[groups.length - 2]? == some []))

/-- An address in groups of base sixteen, perhaps with a zone. -/
def isGroupAddress (s : List Char) : Bool :=
  let address := s.takeWhile (· != '%')
  let zoneFits :=
    match s.dropWhile (· != '%') with
    | [] => true
    | _ :: name => !name.isEmpty && !name.contains '%'
  zoneFits && (match hexGroups? address with
    | some groups => isHexAddress groups
    | none => false)

end FormulaEditor.Address
