import GuestHost.Text.Fields
import GuestHost.Text.Utf8

/-! # Targets of web requests

The target of a request is a path with a query, or a whole address: a scheme, a host and then the
path.

* **Percent-decoding** (`percentDecode?`) takes a written path to its bytes, and `percentEncode`
  writes bytes out again.
* **Reading** (`Target.parse?`).  A scheme is followed by a host if two slashes come next.  Without
  any slash after it there is no path; the text stands for itself.
* **Writing** (`Target.written`) puts another path in the place of the one that was read. -/

namespace GuestHost.Shelf

/-! ### Written bytes -/

def hexValue? (c : Char) : Option Nat :=
  if c.isDigit then some (c.toNat - '0'.toNat)
  else if 'a' ≤ c ∧ c ≤ 'f' then some (c.toNat - 'a'.toNat + 10)
  else if 'A' ≤ c ∧ c ≤ 'F' then some (c.toNat - 'A'.toNat + 10)
  else none

/-- Percent-decoding; `none` when a percent sign is not followed by two digits. -/
def percentDecode? : List Char → Option (List UInt8)
  | [] => some []
  | '%' :: a :: b :: r => do
    let x ← hexValue? a
    let y ← hexValue? b
    let rest ← percentDecode? r
    some (UInt8.ofNat (x * 16 + y) :: rest)
  | c :: r =>
    if c = '%' then none
    else (percentDecode? r).map ((Utf8.encode (String.singleton c)).toList ++ ·)

/-- A byte as a percent sign and two digits. -/
def percentEncoded (b : UInt8) : List Char :=
  ['%', (Nat.digitChar (b.toNat / 16)).toUpper, (Nat.digitChar (b.toNat % 16)).toUpper]

/-- Bytes as text: those that stand for themselves, and the others as numbers. -/
def percentEncodeBut (keep : UInt8 → Bool) (bs : List UInt8) : String :=
  String.ofList (bs.flatMap fun b => if keep b then [Char.ofNat b.toNat] else percentEncoded b)

/-- Whether a byte is a letter, a digit, or one of the given characters. -/
def isPlain (others : String) (b : UInt8) : Bool :=
  let c := Char.ofNat b.toNat
  b < 0x80 && (c.isAlphanum || others.toList.contains c)

def isPathByte : UInt8 → Bool := isPlain "-_.~$&+,/:;=@"

def isHostByte : UInt8 → Bool := isPlain "-_.~!$&'()*+,;=:[]<>\""

/-- Bytes that stand for themselves in the name and the password of a user. -/
def isUserByte : UInt8 → Bool := isPlain "-_.~$&+,;="

def percentEncode (p : List UInt8) : String := percentEncodeBut isPathByte p

/-! ### Hosts -/

/-- Whether what follows a host is nothing, or a colon and digits. -/
def isPortPart : List Char → Bool
  | [] => true
  | c :: r => c = ':' && r.all Char.isDigit

/-- What follows a host: the part after a closing bracket, or from the last colon on. -/
def portPart? (host : List Char) : Option (List Char) :=
  if host.head? = some '[' then
    if host.contains ']' then some ((host.reverse.takeWhile (· ≠ ']')).reverse) else none
  else if host.contains ':' then some (':' :: (host.reverse.takeWhile (· ≠ ':')).reverse)
  else some []

/-- Whether percent signs in a host stand before numbers that may be written so: those of bytes
beyond ASCII, and of the percent sign itself. -/
def hostEscapesFit : List Char → Bool
  | [] => true
  | '%' :: a :: b :: r => ((hexValue? a).any (8 ≤ ·) || (a = '2' && b = '5')) && hostEscapesFit r
  | c :: r => (0x80 ≤ c.toNat || isHostByte (UInt8.ofNat c.toNat)) && hostEscapesFit r

/-- The written form of a host; `none` when it is none. -/
def host? (cs : List Char) : Option String := do
  let port ← portPart? cs
  if isPortPart port && hostEscapesFit cs then
    (percentDecode? cs).map (percentEncodeBut isHostByte)
  else none

def isUserCharacter (c : Char) : Bool :=
  c.toNat < 0x80 && (c.isAlphanum || "-._:~!$&'()*+,;=%@".toList.contains c)

/-- The written form of a user, with a password or without. -/
def user? (cs : List Char) : Option String :=
  if !cs.all isUserCharacter then none
  else do
    let name ← percentDecode? (cs.takeWhile (· ≠ ':'))
    let word ← percentDecode? ((cs.dropWhile (· ≠ ':')).drop 1)
    let written := percentEncodeBut isUserByte
    some (if cs.contains ':' then written name ++ ":" ++ written word else written name)

/-- The written form of a host with the user before it. -/
def authority? (cs : List Char) : Option String :=
  if cs.contains '@' then do
    let host := (cs.reverse.takeWhile (· ≠ '@')).reverse
    let h ← host? host
    let u ← user? (cs.take (cs.length - host.length - 1))
    some (u ++ "@" ++ h)
  else host? cs

/-! ### Targets -/

/-- The target of a request. -/
structure Target where
  /-- The scheme and the host that come before the path. -/
  origin : String := ""
  /-- What stands in the place of a path. -/
  rootless : Option String := none
  /-- The path in decoded form. -/
  path : Bytes
  /-- The query with its question mark, empty when there is none. -/
  query : String := ""
deriving DecidableEq, Repr

namespace Target

/-- The target with another path, as it is written. -/
def written (t : Target) (path : List UInt8) : String :=
  t.origin ++ t.rootless.getD (percentEncode path) ++ t.query

/-- Whether a character can be in a scheme after its first letter. -/
def isSchemeCharacter (c : Char) : Bool := c.isAlphanum || c = '+' || c = '-' || c = '.'

/-- The scheme of an address and what follows its colon. -/
def scheme? (cs : List Char) : Option (List Char × List Char) :=
  match cs.span isSchemeCharacter with
  | (c :: s, ':' :: rest) => if c.isAlpha then some ((c :: s).map Char.toLower, rest) else none
  | _ => none

/-- A target that consists of a path. -/
def ofPath? (origin : String) (path : List Char) (query : String) : Option Target :=
  (percentDecode? path).map fun p => { origin, path := p.toArray, query }

/-- Reads what follows a scheme. -/
def afterScheme? (origin : String) (cs : List Char) (query : String) : Option Target :=
  match cs with
  | '/' :: '/' :: r => do
    let a ← authority? (r.takeWhile (· ≠ '/'))
    ofPath? (origin ++ "//" ++ a) (r.dropWhile (· ≠ '/')) query
  | '/' :: _ => ofPath? origin cs query
  | _ => some { origin, rootless := some (String.ofList cs), path := #[], query }

/-- Reads the target of a request line.  A request to connect names a host only. -/
def parse? (method s : String) : Option Target :=
  let cs := s.toList
  let rest := cs.takeWhile (· ≠ '?')
  let query := String.ofList (cs.dropWhile (· ≠ '?'))
  if cs.any fun c => c.toNat ≤ 0x20 || c.toNat = 0x7F then none
  else if cs = ['*'] then some { path := Utf8.encode s }
  else if cs.head? = some '/' then ofPath? "" rest query
  else if method = "CONNECT" then afterScheme? "" ('/' :: '/' :: rest) query
  else
    match scheme? rest with
    | some (scheme, rest) => afterScheme? (String.ofList scheme ++ ":") rest query
    | none => none

end Target
end GuestHost.Shelf
