/-! # Punycode

A label with characters beyond the plain ones is sent in plain characters: first its own plain
characters and a hyphen, then the others, in the order of their numbers, each given by the distance
from the one before it. Distances are written in digits of base thirty-six, the lowest one first,
and the ends of numbers are told by thresholds that adapt to the distances met so far. Texts are
given by the numbers of their characters.
-/

namespace FormulaEditor.Hostname.Punycode

/-! ## Digits and thresholds -/

def base : Nat := 36

/-- The threshold where nothing has been met. -/
def firstBias : Nat := 72

/-- The number of the first character that is not plain. -/
def firstBeyond : Nat := 0x80

/-- The value of a digit: letters, in either case, and then figures. -/
def digit? (n : Nat) : Option Nat :=
  if 0x61 ≤ n ∧ n ≤ 0x7A then some (n - 0x61)
  else if 0x41 ≤ n ∧ n ≤ 0x5A then some (n - 0x41)
  else if 0x30 ≤ n ∧ n ≤ 0x39 then some (n - 0x30 + 26)
  else none

def ofDigit (d : Nat) : Nat := if d < 26 then 0x61 + d else 0x30 + (d - 26)

/-- The digit at a place is the last one if it is below this; `k` is 36 for the first place, 72 for
the second one, and so on. -/
def threshold (k bias : Nat) : Nat := min 26 (max 1 (k - bias))

/-- Digits below the threshold exist. -/
theorem threshold_pos (k bias : Nat) : 0 < threshold k bias := by
  simp only [threshold]; omega

/-- Divides a large distance until it is small, counting the places. -/
def shrink (delta k : Nat) : Nat × Nat :=
  if delta ≤ 455 then (delta, k) else shrink (delta / 35) (k + base)
termination_by delta
decreasing_by omega

/-- The bias behind a distance, there being `count` characters then. -/
def adapt (delta count : Nat) (isFirst : Bool) : Nat :=
  -- The first distance tells less about those to come and is damped.
  let halved := if isFirst then delta / 700 else delta / 2
  let (small, k) := shrink (halved + halved / count) 0
  k + base * small / (small + 38)

/-! ## Writing -/

/-- The digits of a distance. -/
def writeNumber (bias k q : Nat) : List Nat :=
  if q < threshold k bias then [ofDigit q]
  else
    ofDigit (threshold k bias + (q - threshold k bias) % (base - threshold k bias)) ::
      writeNumber bias (k + base) ((q - threshold k bias) / (base - threshold k bias))
termination_by q
decreasing_by
  have := threshold_pos k bias
  have := Nat.div_le_self (q - threshold k bias) (base - threshold k bias)
  omega

/-- A writer at work: the digits written, the distance so far, the bias, and the number of
characters that are done. -/
structure Writer where
  written : List Nat
  delta : Nat
  bias : Nat
  done : Nat

/-- Passes one character of the label, all below `m` being done; `plain` is the number of plain
ones. -/
def Writer.pass (plain m : Nat) (w : Writer) (n : Nat) : Writer :=
  if n < m then { w with delta := w.delta + 1 }
  else if n = m then
    ⟨w.written ++ writeNumber w.bias base w.delta, 0,
      adapt w.delta (w.done + 1) (w.done == plain), w.done + 1⟩
  else w

/-- Writes the characters of the numbers in `ms`, all below `next` being done. -/
def Writer.run (label : List Nat) (plain next : Nat) (w : Writer) : (ms : List Nat) → Writer
  | [] => w
  | m :: more =>
    let w := { w with delta := w.delta + (m - next) * (w.done + 1) }
    let w := label.foldl (pass plain m) w
    run label plain (m + 1) { w with delta := w.delta + 1 } more

/-- Inserts a number into an ascending list that holds each number once. -/
def insertOnce (n : Nat) : List Nat → List Nat
  | [] => [n]
  | m :: rest =>
    if n < m then n :: m :: rest else if n = m then m :: rest else m :: insertOnce n rest

def plainOf (label : List Nat) : List Nat := label.filter (· < firstBeyond)

def encode (label : List Nat) : List Nat :=
  let plain := plainOf label
  -- The others are written in the order of their numbers, whatever their order in the label.
  let beyond := (label.filter (firstBeyond ≤ ·)).foldr insertOnce []
  let w := Writer.run label plain.length firstBeyond ⟨[], 0, firstBias, plain.length⟩ beyond
  plain ++ (if plain.isEmpty then [] else [0x2D]) ++ w.written

/-! ## Reading -/

/-- Reads a number on top of `sum`, `weight` being that of the next digit. -/
def readNumber? (bias k weight sum : Nat) : List Nat → Option (Nat × List Nat)
  | [] => none
  | n :: rest =>
    match digit? n with
    | none => none
    | some d =>
      if d < threshold k bias then some (sum + d * weight, rest)
      else readNumber? bias (k + base) (weight * (base - threshold k bias)) (sum + d * weight) rest

/-- Reading a number takes a digit at least. -/
theorem length_lt_of_readNumber? {bias k weight sum : Nat} {s : List Nat} {r : Nat × List Nat}
    (h : readNumber? bias k weight sum s = some r) : r.2.length < s.length := by
  induction s generalizing k weight sum with
  | nil => simp [readNumber?] at h
  | cons n rest ih =>
    simp only [readNumber?] at h
    split at h
    · simp at h
    · split at h
      · simp only [Option.some.injEq] at h; subst h; simp
      · have := ih h; simp; omega

def greatest : Nat := 0x10FFFF

/-- Inserts the characters that distances give into a text; the last one had number `n` and stands
before `place`, which is zero for the first one only. -/
def readFrom? (bias n place : Nat) (text s : List Nat) : Option (List Nat) :=
  match s with
  | [] => some text
  | d :: rest =>
    match h : readNumber? bias base 1 0 (d :: rest) with
    | none => none
    | some (delta, behind) =>
      let count := text.length + 1
      let n' := n + (place + delta) / count
      let place' := (place + delta) % count
      if n' ≤ greatest then
        readFrom? (adapt delta count (place == 0)) n' (place' + 1) (text.insertIdx place' n') behind
      else none
termination_by s.length
decreasing_by
  have := length_lt_of_readNumber? h
  simpa using this

/-- The label of a code: the plain characters end at the last hyphen. -/
def decode? (code : List Nat) : Option (List Nat) :=
  match code.reverse.dropWhile (· != 0x2D) with
  | _ :: p :: plain =>
    readFrom? firstBias firstBeyond 0 (p :: plain).reverse
      (code.reverse.takeWhile (· != 0x2D)).reverse
  | _ => readFrom? firstBias firstBeyond 0 [] code

end FormulaEditor.Hostname.Punycode
