import GuestHost.Path
import GuestHost.Shelf
import GuestHost.Shelf.Target
import GuestHost.Text.Quoted

/-! # Serving downloads

The shelf answers web requests.

* `GET /artifacts` lists what is on the shelf.
* `GET /artifacts/<name>` hands an artifact out as an attachment; `HEAD` gives its headers only.
* A path with doubled slashes, `.` or `..` is sent to its cleaned form.
* Other methods on these paths are refused, and other paths are not found. -/

namespace GuestHost.Shelf

/-! ### Answers -/

/-- An answer to a request. -/
structure Response where
  status : Nat
  headers : List (String × String) := []
  body : Bytes := #[]
deriving DecidableEq, Repr

namespace Response

/-- Nothing is there. -/
def notFound : Response :=
  { status := 404, headers := [("Content-Type", "text/plain; charset=utf-8")]
    body := Utf8.encode "404 page not found\n" }

/-- The path is known, but not for this method. -/
def refused : Response := { status := 405 }

/-- The path is to be asked for in another form. -/
def movedTo (location : String) : Response := { status := 301, headers := [("Location", location)] }

end Response

/-! ### Written forms -/

/-- A character of a text in the list of artifacts. -/
def escaped (c : Char) : List Char :=
  let n := c.toNat
  if c = '"' then ['\\', '"']
  else if c = '\\' then ['\\', '\\']
  else if n = 8 then ['\\', 'b']
  else if n = 9 then ['\\', 't']
  else if n = 10 then ['\\', 'n']
  else if n = 12 then ['\\', 'f']
  else if n = 13 then ['\\', 'r']
  else if n < 0x20 || c = '<' || c = '>' || c = '&' || n = 0x2028 || n = 0x2029 then
    '\\' :: 'u' :: Quoted.hex 4 n
  else [c]

/-- A text between quotes in the list of artifacts. -/
def quotedText (s : String) : String := "\"" ++ String.ofList (s.toList.flatMap escaped) ++ "\""

/-- An artifact in the list; `none` when its date cannot be written. -/
def entryText? (a : Artifact) : Option String :=
  a.createdAt.text?.map fun date =>
    "\x7b\"name\":" ++ quotedText a.name ++ ",\"mime\":" ++ quotedText a.mediaType ++ ",\"size\":"
      ++ toString a.content.size ++ ",\"created_at\":\"" ++ date ++ "\"\x7d"

/-- The list of artifacts; empty when it cannot be written. -/
def listText (s : Shelf) : String :=
  match s.sorted.mapM entryText? with
  | some es => "[" ++ String.intercalate "," es ++ "]\n"
  | none => ""

/-- Characters with a meaning in media types. -/
def isSpecial (b : UInt8) : Bool :=
  "()<>@,;:\\\"/[]?=".toList.contains (Char.ofNat b.toNat)

/-- Characters that need no quotes. -/
def isTokenByte (b : UInt8) : Bool := 0x20 < b && b < 0x7F && !isSpecial b

/-- The header that offers a file name for saving. -/
def disposition (name : String) : String :=
  let bs := (Utf8.encode name).toList
  let head := "attachment; filename"
  if bs.any fun b => (b < 0x20 || 0x7E < b) && b ≠ 0x09 then
    let plain (b : UInt8) : Bool :=
      isTokenByte b && !("*'%".toList.contains (Char.ofNat b.toNat))
    head ++ "*=utf-8''" ++ String.ofList (bs.flatMap fun b =>
      if plain b then [Char.ofNat b.toNat] else percentEncoded b)
  else if bs ≠ [] && bs.all isTokenByte then head ++ "=" ++ name
  else
    head ++ "=\"" ++ String.ofList (name.toList.flatMap fun c =>
      if c = '"' || c = '\\' then ['\\', c] else [c]) ++ "\""

/-! ### Routes -/

/-- A path with `.`, `..` and doubled slashes resolved; a slash at the end stays. -/
def cleaned (p : String) : String :=
  let rooted := if Path.isRooted p then p else "/" ++ p
  let c := Path.clean rooted
  if rooted.toList.getLast? = some '/' && c ≠ "/" then c ++ "/" else c

/-- What a path leads to. -/
inductive Route
  | list
  | artifact (name : String)
  | nowhere
deriving DecidableEq, Repr

def Route.ofPath (p : String) : Route :=
  match Path.names p with
  | ["", "artifacts"] => list
  | ["", "artifacts", name] => if name = "" then nowhere else artifact name
  | _ => nowhere

def handOut (s : Shelf) (name : String) (head : Bool) : Response :=
  match s.get? name with
  | none => .notFound
  | some a =>
    { status := 200
      headers := [("Content-Type", a.mediaType), ("Content-Disposition", disposition a.name),
        ("Content-Length", toString a.content.size)]
      body := if head then #[] else a.content }

/-- Bytes as a text with one character a byte. -/
def lettered (bs : Bytes) : String := String.ofList (bs.toList.map fun b => Char.ofNat b.toNat)

def respond (s : Shelf) (method : String) (t : Target) : Response :=
  let path := lettered t.path
  if cleaned path ≠ path then
    .movedTo (t.written ((cleaned path).toList.map fun c => UInt8.ofNat c.toNat))
  else
    match Route.ofPath (Utf8.lossy t.path.toList) with
    | .nowhere => .notFound
    | .list =>
      if method = "GET" then
        { status := 200, headers := [("Content-Type", "application/json")]
          body := Utf8.encode s.listText }
      else .refused
    | .artifact name =>
      if method ≠ "GET" ∧ method ≠ "HEAD" then .refused
      -- A path that is no text is the name of nothing.
      else if (Utf8.text? t.path).isNone then .notFound
      else s.handOut name (method = "HEAD")

end GuestHost.Shelf
