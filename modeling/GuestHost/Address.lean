import GuestHost.Fault
import GuestHost.Text.Fields

/-! # Network addresses

An address to serve at is a host and a port with a colon between them; a host with colons in it
stands in square brackets.

* **Ports** (`Address.port?`) are numbers, or names of well-known services.
* **Hosts** (`Address.hostFault?`) are empty, numbers, or names.  A number has to be one of this
  machine, and what cannot be a name leads nowhere. -/

namespace GuestHost.Address

/-- Ports of services that are known by name. -/
def services : List (String × Nat) :=
  [("domain", 53), ("ftp", 21), ("ftps", 990), ("gopher", 70), ("http", 80), ("https", 443),
   ("imap2", 143), ("imap3", 220), ("imaps", 993), ("pop3", 110), ("pop3s", 995), ("smtp", 25),
   ("submissions", 465), ("ssh", 22), ("telnet", 23)]

def maxPort : Nat := 65535

/-- A number that is too large to be read further. -/
def tooLarge : UInt32 := 0x40000000

/-- The number that digits stand for, read from the left as a 32-bit number.  Once it is too large
the characters that follow are not looked at; before that all of them have to be digits. -/
def number? : UInt32 → List Char → Option UInt32
  | n, [] => some n
  | n, c :: r =>
    if !c.isDigit then none
    else if tooLarge ≤ n then some tooLarge
    else
      let shifted := 10 * n
      let next := shifted + (c.val - '0'.val)
      if next < shifted then some tooLarge else number? next r

/-- The number of a port, or what is wrong with it. -/
def port? (port : String) : Except Fault Nat :=
  let cs := port.toList
  let digits := if cs.head? = some '+' ∨ cs.head? = some '-' then cs.drop 1 else cs
  match number? 0 digits with
  | some n =>
    if maxPort < n.toNat ∨ (cs.head? = some '-' ∧ n ≠ 0) then
      .error (.plain ("address " ++ port ++ ": invalid port"))
    else .ok n.toNat
  | none =>
    match services.lookup (String.ofList (cs.map Char.toLower)) with
    | some n => .ok n
    | none => .error (.plain ("lookup tcp/" ++ port ++ ": unknown port"))

/-! ### Hosts -/

def octet? (cs : List Char) : Option Nat :=
  let n := cs.foldl (fun n c => 10 * n + (c.toNat - '0'.toNat)) 0
  if cs.isEmpty || !cs.all Char.isDigit || 3 < cs.length || 255 < n then none
  else if cs.head? = some '0' && 1 < cs.length then none
  else some n

def octets? (host : List Char) : Option (List Nat) :=
  match (Fields.split '.' host).mapM octet? with
  | some ns => if ns.length = 4 then some ns else none
  | none => none

/-- Whether this machine can be reached at four numbers: they are its own, or those of no machine
in particular. -/
def isOwn (octets : List Nat) : Bool :=
  match octets with
  | [a, b, c, d] =>
    a = 127 || [a, b, c, d] = [0, 0, 0, 0] || (224 ≤ a && a < 240)
      || [a, b, c, d] = [255, 255, 255, 255]
  | _ => false

/-- How many pairs of bytes the groups between colons stand for.  Four numbers may stand at the
end. -/
def groups? : List (List Char) → Option Nat
  | [] => some 0
  | g :: r =>
    let isHex (c : Char) : Bool := c.isDigit || ('a' ≤ c.toLower && c.toLower ≤ 'f')
    if !g.isEmpty && g.length ≤ 4 && g.all isHex then (groups? r).map (· + 1)
    else if r.isEmpty && (octets? g).isSome then some 2
    else none

/-- The groups between the colons of a text, none for an empty one. -/
def groupsOf (cs : List Char) : List (List Char) := if cs.isEmpty then [] else Fields.split ':' cs

/-- Splits a text at the first two colons in a row. -/
def splitGap : List Char → Option (List Char × List Char)
  | ':' :: ':' :: r => some ([], r)
  | c :: r => (splitGap r).map fun (a, b) => (c :: a, b)
  | [] => none

/-- Whether a host is eight groups with colons between them, some of them left out in one gap.  A
zone may follow. -/
def isGrouped (host : List Char) : Bool :=
  let address := host.takeWhile (· ≠ '%')
  let zone := host.dropWhile (· ≠ '%')
  zone ≠ ['%'] &&
    match splitGap address with
    | none => groups? (groupsOf address) = some 8
    | some (a, b) =>
      match groups? (groupsOf a), groups? (groupsOf b) with
      | some m, some n => m + n < 8 && !(groupsOf a).any (·.contains '.')
      | _, _ => false

/-- Whether the characters of a name fit each other.  `last` is the character before, `size` the
length of the part so far. -/
def partsFit (last : Char) (size : Nat) : List Char → Bool
  | [] => last ≠ '-' && size ≤ 63
  | c :: r =>
    if c = '.' then last ≠ '.' && last ≠ '-' && size ≤ 63 && partsFit c 0 r
    else if c = '-' then last ≠ '.' && partsFit c (size + 1) r
    else (c.isAlphanum || c = '_') && partsFit c (size + 1) r

/-- Whether a host can be a name: parts with dots between them, and not only digits. -/
def isName (host : List Char) : Bool :=
  host = ['.'] ||
    (host.length < 254 + (if host.getLast? = some '.' then 1 else 0)
      && partsFit '.' 0 host && host.any fun c => !c.isDigit && c ≠ '.')

def hostFault? (host : String) (port : Nat) : Option Fault :=
  let cs := host.toList
  if cs.isEmpty then none
  else
    match octets? cs with
    | some ns =>
      if isOwn ns then none
      else
        some (.within ("listen tcp " ++ host ++ ":" ++ toString port)
          (.plain "bind: cannot assign requested address"))
    | none =>
      if isGrouped cs || isName cs then none
      else some (.within "listen tcp" (.plain ("lookup " ++ host ++ ": no such host")))

/-! ### Addresses -/

/-- The host and the port of an address, or what is wrong with the address. -/
def parts (address : String) : Except String (String × String) :=
  let cs := address.toList
  if !cs.contains ':' then .error "missing port in address"
  else
    let port := (cs.reverse.takeWhile (· ≠ ':')).reverse
    let host := cs.take (cs.length - port.length - 1)
    if host.head? = some '[' then
      let inner := (host.drop 1).takeWhile (· ≠ ']')
      let after := cs.drop (inner.length + 2)
      if !cs.contains ']' then .error "missing ']' in address"
      else if after.isEmpty then .error "missing port in address"
      else if after.head? ≠ some ':' then .error "missing port in address"
      else if after.length ≠ port.length + 1 then .error "too many colons in address"
      else if inner.contains '[' ∨ port.contains '[' then .error "unexpected '[' in address"
      else if port.contains ']' then .error "unexpected ']' in address"
      else .ok (String.ofList inner, String.ofList port)
    else if host.contains ':' then .error "too many colons in address"
    else if cs.contains '[' then .error "unexpected '[' in address"
    else if cs.contains ']' then .error "unexpected ']' in address"
    else .ok (String.ofList host, String.ofList port)

/-- What is wrong with an address to serve at. -/
def fault? (address : String) : Option Fault :=
  match parts address with
  | .error why =>
    some (.within "listen tcp" (.plain ("address " ++ address ++ ": " ++ why)))
  | .ok (host, port) =>
    match port? port with
    | .error f => some (.within "listen tcp" f)
    | .ok n => hostFault? host n

/-- Why nothing can be served at an address. -/
def listenFault? (address : String) : Option Fault :=
  (fault? address).map fun f => .within ("listen " ++ address) f

end GuestHost.Address
