import FormulaEditor.Address.Numeric
import FormulaEditor.Decimal.LooseNumeral
import FormulaEditor.Hostname.International

/-! # Addresses

An address is taken apart into scheme, user, host, port, path, query and fragment. It is refused
when it is too long, holds control characters, or names a host or a port that cannot be. Dot
segments of its path are resolved.
-/

namespace FormulaEditor

/-- An address, taken apart. -/
structure Address where
  scheme : List Char
  user : List Char
  /-- the host as it is sent, without brackets -/
  host : List Char
  /-- the port, unless it is the usual one of the scheme -/
  port : Option Int
  path : List Char
  query : Option (List Char)
  fragment : Option (List Char)
  deriving DecidableEq, Repr

namespace Address

/-! ## Faults -/

/-- Why a text is no address. -/
inductive Fault where
  | tooLong
  | control (c : Char) (position : Nat)
  /-- the look of four numbers, and no such address -/
  | fourNumbers (host : List Char)
  | groups (host : List Char)
  /-- an international name that cannot be -/
  | name (host : List Char)
  | port (text : List Char)
  /-- a path with two slashes in front and no host before it -/
  | doubleSlash
  /-- a path with a colon in front and no scheme before it -/
  | initialColon
  /-- a part, by its name, that is too long when it is written out -/
  | longPart (part : String)
  deriving DecidableEq, Repr

def Fault.message : Fault → String
  | .tooLong => "URL too long"
  | .control c position =>
    "Invalid non-printable ASCII character in URL, " ++ Text.quoted (String.singleton c) ++
      " at position " ++ toString position ++ "."
  | .fourNumbers host => "Invalid IPv4 address: " ++ Text.quoted (String.ofList host)
  | .groups host => "Invalid IPv6 address: " ++ Text.quoted (String.ofList host)
  | .name host => "Invalid IDNA hostname: " ++ Text.quoted (String.ofList host)
  | .port text => "Invalid port: " ++ Text.quoted (String.ofList text)
  | .doubleSlash => "Relative URLs cannot have a path starting with '//'"
  | .initialColon => "Relative URLs cannot have a path starting with ':'"
  | .longPart part => "URL component '" ++ part ++ "' too long"

/-! ## Parts of a text -/

/-- Splits at the first character of a set, which stays with the rest. -/
def splitAtFirst (marks : List Char) (s : List Char) : List Char × List Char :=
  (s.takeWhile (!marks.contains ·), s.dropWhile (!marks.contains ·))

/-- Splits at the last of a mark, which is left out. -/
def splitAtLast? (mark : Char) (s : List Char) : Option (List Char × List Char) :=
  match s.reverse.dropWhile (· != mark) with
  | [] => none
  | _ :: before => some (before.reverse, (s.reverse.takeWhile (· != mark)).reverse)

/-- The text behind a mark in front, if there is one. -/
def behind? (mark : Char) : List Char → Option (List Char)
  | c :: rest => if c = mark then some rest else none
  | [] => none

def isPlainAlphanum (c : Char) : Bool := c.isAlpha || c.isDigit

/-- The text can be a scheme: nothing, or a letter and then letters, digits and three marks. -/
def isScheme (s : List Char) : Bool :=
  match s with
  | [] => true
  | first :: rest =>
    first.isAlpha && rest.all fun c => isPlainAlphanum c || c == '+' || c == '.' || c == '-'

/-- The scheme in front of a colon, and the rest. -/
def takeScheme (s : List Char) : List Char × List Char :=
  match splitAtFirst [':'] s with
  -- A colon behind anything else belongs to the path.
  | (scheme, _ :: rest) => if isScheme scheme then (scheme, rest) else ([], s)
  | (_, []) => ([], s)

/-- The authority behind two slashes, and the rest. -/
def takeAuthority (s : List Char) : List Char × List Char :=
  match s with
  | '/' :: '/' :: rest => splitAtFirst ['/', '?', '#'] rest
  | rest => ([], rest)

/-- Host and port of an authority without its user. A host in brackets may hold colons. -/
def hostAndPort (s : List Char) : List Char × List Char :=
  let bracketed : Option (List Char × List Char) :=
    match s with
    | '[' :: _ => (splitAtLast? ']' s).map fun (inside, rest) => (inside ++ [']'], rest)
    | _ => none
  let (host, rest) := bracketed.getD (splitAtFirst [':', '@'] s)
  (host, (behind? ':' rest).getD rest)

/-! ## Hosts and ports -/

/-- A plain character that cannot be shown. -/
def isControl (c : Char) : Bool := decide (c.toNat < 0x20) || c.toNat == 0x7F

def isAscii (c : Char) : Bool := decide (c.toNat < 0x80)

/-- The bytes of a character by number. -/
def percentEncode (c : Char) : List Char :=
  (String.utf8EncodeChar c).flatMap fun b =>
    '%' :: (Text.hexDigits 2 b.toNat).map Char.toUpper

/-- The text with all characters outside a set given by number. -/
def quote (isSafe : Char → Bool) (s : List Char) : List Char :=
  s.flatMap fun c => if isSafe c then [c] else percentEncode c

/-- The characters that stand for themselves in a host. -/
def hostSafe (c : Char) : Bool :=
  isPlainAlphanum c || "-._~!$&'()*+,;=\"`\x7b\x7d%|\\".toList.contains c

def sentHost (host : List Char) : Except Fault (List Char) :=
  if looksLikeFourNumbers host then
    if isFourNumbers host then .ok host else .error (.fourNumbers host)
  else if host.head? = some '[' ∧ host.getLast? = some ']' then
    let inside := (host.drop 1).dropLast
    if isGroupAddress inside then .ok inside else .error (.groups host)
  else if host.all isAscii then .ok (quote hostSafe (host.map Char.toLower))
  else
    match Hostname.encode ((Text.lower (String.ofList host)).toList.map Char.toNat) with
    | .ok sent => .ok (sent.map Char.ofNat)
    | .error _ => .error (.name host)

def usualPorts : List (String × Int) :=
  [("ftp", 21), ("http", 80), ("https", 443), ("ws", 80), ("wss", 443)]

def readPort (scheme text : List Char) : Except Fault (Option Int) :=
  if text.isEmpty then .ok none
  else
    match LooseNumeral.readInt? (String.ofList text) with
    | none => .error (.port text)
    -- The usual port of a scheme is left out.
    | some n => .ok (if usualPorts.lookup (String.ofList scheme) = some n then none else some n)

/-! ## Paths -/

/-- One more segment behind those kept, the last one first: a single dot stays where it is, a double
one goes back. -/
def resolveSegment (kept : List (List Char)) (segment : List Char) : List (List Char) :=
  if segment = ['.'] then kept
  else if segment = ['.', '.'] then
    -- The root has nothing to go back to.
    if kept = [[]] then kept else kept.drop 1
  else segment :: kept

/-- The path without dot segments. -/
def resolveDots (path : List Char) : List Char :=
  ['/'].intercalate ((Text.segments (· == '/') path).foldl resolveSegment []).reverse

/-! ## Reading -/

/-- The greatest length of an address and of its parts. -/
def lengthLimit : Nat := 65536

/-- The first control character of a text and its place. -/
def firstControl? (s : List Char) : Option (Char × Nat) :=
  match s.dropWhile (!isControl ·) with
  | c :: _ => some (c, (s.takeWhile (!isControl ·)).length)
  | [] => none

def hasScheme (a : Address) : Bool := !a.scheme.isEmpty

def hasAuthority (a : Address) : Bool := !a.user.isEmpty || !a.host.isEmpty || a.port.isSome

def isAbsolute (a : Address) : Bool := a.hasScheme && !a.host.isEmpty

/-- A path without scheme and authority looks like neither. -/
def checkPath (a : Address) : Except Fault Unit :=
  if a.hasScheme || a.hasAuthority then .ok ()
  else if "//".toList.isPrefixOf a.path then .error .doubleSlash
  else if a.path.head? = some ':' then .error .initialColon
  else .ok ()

def read (text : String) : Except Fault Address := do
  let s := text.toList
  if lengthLimit < s.length then throw .tooLong
  if let some (c, position) := firstControl? s then throw (.control c position)
  let (scheme, afterScheme) := takeScheme s
  let (authority, afterAuthority) := takeAuthority afterScheme
  let (path, afterPath) := splitAtFirst ['?', '#'] afterAuthority
  let query := (behind? '?' afterPath).map (·.takeWhile (· != '#'))
  let fragment := behind? '#' (afterPath.dropWhile (· != '#'))
  -- The user may hold the mark that ends it.
  let (user, place) := (splitAtLast? '@' authority).getD ([], authority)
  let (host, port) := hostAndPort place
  let host ← sentHost host
  let port ← readPort scheme port
  let a : Address := ⟨scheme, user, host, port, path, query, fragment⟩
  a.checkPath
  return if a.hasScheme || a.hasAuthority then { a with path := resolveDots a.path } else a

/-! ## Writing out -/

/-- The character stands for itself in every part behind the host. -/
def partSafe (c : Char) : Bool :=
  decide (0x20 < c.toNat) && decide (c.toNat < 0x7F) && !(['"', '<', '>'].contains c)

/-- The character stands for itself in a path. -/
def pathSafe (c : Char) : Bool := partSafe c && !(['#', '?', '\x60', '\x7b', '\x7d'].contains c)

/-- The character stands for itself in a query. -/
def querySafe (c : Char) : Bool := partSafe c && c != '#'

/-- The character stands for itself in a fragment. -/
def fragmentSafe (c : Char) : Bool := partSafe c && c != '\x60'

/-- The character stands for itself in the name of a user. -/
def userSafe (c : Char) : Bool :=
  pathSafe c && !(['/', ';', '=', '@', '[', '\\', ']', '^', '|'].contains c)

/-- The host, in brackets if it has colons. -/
def bracketedHost (a : Address) : List Char :=
  if a.host.contains ':' then '[' :: a.host ++ [']'] else a.host

/-- Host and port, as they are sent. -/
def place (a : Address) : List Char :=
  a.bracketedHost ++ match a.port with
    | some n => ':' :: (toString n).toList
    | none => []

def authority (a : Address) : List Char :=
  (if a.user.isEmpty then [] else quote userSafe a.user ++ ['@']) ++ a.place

/-- Fails when a part is too long, written out. -/
def checkLength (part : String) (written : List Char) : Except Fault Unit :=
  if lengthLimit < written.length then .error (.longPart part) else .ok ()

/-- Checks the codes in the host, if it begins with one. -/
def checkCodes (a : Address) : Except Hostname.Fault Unit :=
  if "xn--".toList.isPrefixOf a.host then Hostname.checkPlainName (a.host.map Char.toNat)
  else .ok ()

/-- The path of an address without scheme or host, put behind a first slash. -/
def rootedPath (a : Address) : List Char := '/' :: a.path.dropWhile (· == '/')

end Address

end FormulaEditor
