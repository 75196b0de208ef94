import FormulaEditor.Hostname.Label

/-! # International hostnames

A hostname with characters beyond the plain ones is sent in codes: each label that has such
characters is replaced by a code behind a mark. A code is good only if the label that it stands for
is. Hostnames are given by the numbers of their characters.
-/

namespace FormulaEditor.Hostname

def codeMark : List Nat := "xn--".toList.map Char.toNat

def isPlain (n : Nat) : Bool := decide (n < 0x80)

/-- A plain capital letter in lower case. -/
def lowerPlain (n : Nat) : Nat := if 0x41 ≤ n ∧ n ≤ 0x5A then n + 0x20 else n

/-- The points that separate labels. -/
def isSeparator (n : Nat) : Bool := n == 0x2E || n == 0x3002 || n == 0xFF0E || n == 0xFF61

/-- The labels between separators. -/
def splitLabels : List Nat → List (List Nat)
  | [] => [[]]
  | n :: rest =>
    if isSeparator n then [] :: splitLabels rest
    else
      match splitLabels rest with
      | [] => [[n]]
      | first :: more => (n :: first) :: more

/-- The labels of a name, and whether an empty one stood behind them. -/
def labelsOf (name : List Nat) : List (List Nat) × Bool :=
  let labels := splitLabels name
  if labels.getLast? == some [] then (labels.dropLast, true) else (labels, false)

/-- Checks a label in plain characters. A code is checked as the label that it stands for. -/
def checkPlainLabel (label : List Nat) : Except Fault Unit :=
  let label := label.map lowerPlain
  if codeMark.isPrefixOf label then
    let code := label.drop codeMark.length
    if code.isEmpty then .error .noCode
    else if code.getLast? == some hyphen then .error .codeEndsInHyphen
    else
      match Punycode.decode? code with
      | none => .error .badCode
      | some decoded => checkLabel decoded
  else checkLabel label

def encodeLabel (label : List Nat) : Except Fault (List Nat) := do
  let sent ←
    if label.all isPlain then (checkPlainLabel label).map fun _ => label
    else (checkLabel label).map fun _ => codeMark ++ Punycode.encode label
  if labelLimit < sent.length then throw .longLabel
  return sent

def encode (name : List Nat) : Except Fault (List Nat) := do
  if nameLimit < name.length then throw .longName
  if name.isEmpty then throw .emptyName
  let (labels, isOpen) := labelsOf name
  let sent ← labels.mapM encodeLabel
  let whole := [0x2E].intercalate (if isOpen then sent ++ [[]] else sent)
  if (if isOpen then nameLimit else nameLimit - 1) < whole.length then throw .longName
  return whole

/-- Checks a name in plain characters, codes being checked as what they stand for. -/
def checkPlainName (name : List Nat) : Except Fault Unit := do
  if nameLimit < name.length then throw .longName
  if name.isEmpty then throw .emptyName
  (labelsOf name).1.forM checkPlainLabel

end FormulaEditor.Hostname
