import GuestHost.Text.Fields

/-! # Lexical paths

Paths as text, taken apart and put together without looking at any file.

* **Components** (`Path.components`).  The names between slashes after `.` and doubled slashes are
  dropped and `..` is resolved against the name before it.  A rooted path never keeps a `..`; a
  relative one keeps them only at its front.
* **Cleaned text** (`Path.clean`).  The components written out again.
* **Pieces** (`Path.base`, `Path.dir`, `Path.ext`) and **joining** (`Path.join`).
* **Confinement** (`Path.isLocal`).  A relative path that does not start by going up. -/

namespace GuestHost.Path

def isRooted (p : String) : Bool := p.toList.head? == some '/'

/-- Adds one name to components held in reverse: `..` takes the last name back, if there is one
to take back. -/
def push (rooted : Bool) (stack : List String) (name : String) : List String :=
  if name = "" ∨ name = "." then stack
  else if name = ".." then
    match stack with
    | top :: rest => if top = ".." then ".." :: stack else rest
    | [] => if rooted then [] else [".."]
  else name :: stack

/-- Resolves `.` and `..` among names. -/
def resolve (rooted : Bool) (names : List String) : List String :=
  (names.foldl (push rooted) []).reverse

/-- The names between the slashes of a path, empty ones included. -/
def names (p : String) : List String := Fields.ofString '/' p

def components (p : String) : List String := resolve (isRooted p) (names p)

/-- Components written out. -/
def text (rooted : Bool) (cs : List String) : String :=
  if rooted then "/" ++ String.intercalate "/" cs
  else if cs.isEmpty then "." else String.intercalate "/" cs

/-- The shortest path with the same lexical meaning. -/
def clean (p : String) : String := text (isRooted p) (components p)

def trimSlashes (cs : List Char) : List Char := (cs.reverse.dropWhile (· = '/')).reverse

/-- The last name of a path; `.` for an empty path and `/` for slashes only. -/
def base (p : String) : String :=
  if p = "" then "."
  else
    match trimSlashes p.toList with
    | [] => "/"
    | cs => String.ofList ((cs.reverse.takeWhile (· ≠ '/')).reverse)

/-- Everything up to the last slash, cleaned. -/
def dir (p : String) : String :=
  clean (String.ofList ((p.toList.reverse.dropWhile (· ≠ '/')).reverse))

/-- The part of the last name from its last dot on, empty without a dot. -/
def ext (p : String) : String :=
  let last := (p.toList.reverse.takeWhile (· ≠ '/'))
  if last.contains '.' then String.ofList ('.' :: (last.takeWhile (· ≠ '.')).reverse) else ""

def stem (p : String) : String :=
  let b := (base p).toList
  String.ofList (b.take (b.length - (ext (base p)).length))

/-- Two paths one below the other, cleaned; an empty one does not count. -/
def join (a b : String) : String :=
  if a = "" then if b = "" then "" else clean b
  else if b = "" then clean a
  else clean (a ++ "/" ++ b)

/-- A path that stays below the directory it is joined to. -/
def isLocal (p : String) : Bool :=
  p ≠ "" && !isRooted p && (components p).head? != some ".."

/-- A path in canonical relative form: names only, no dots, no slash at either end. -/
def isCanonical (p : String) : Bool :=
  p = "." || (names p).all fun n => n ≠ "" && n ≠ "." && n ≠ ".."

end GuestHost.Path
