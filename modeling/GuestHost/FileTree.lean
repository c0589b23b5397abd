import GuestHost.Fault
import GuestHost.Module
import GuestHost.Path

/-! # A tree of files

The files that the host works on: directories, regular files and a device that is always full.
There are no links, and nothing is forbidden.

* **Places** are lists of names from the root down.  `FileTree.find?` says what is at a place.
* **Lookup** (`FileTree.locate`) follows a path name by name: every name but the last has to be a
  directory, `..` goes up, and a slash at the end asks for a directory.
* **Operations** (`stat`, `readFile`, `writeFile`, `makeDirectories`, `list`, `remove`) fail with
  the system's reasons. -/

namespace GuestHost

/-- What can be at a place. -/
inductive Entry
  | directory
  | file (content : Content)
  /-- A device that can be opened and never has room. -/
  | fullDevice
deriving Inhabited

def Entry.isDirectory : Entry → Bool
  | directory => true
  | _ => false

/-- A place: names from the root down. -/
abbrev Place := List String

/-- The files there are, and the directory in which relative paths start. -/
structure FileTree where
  entries : List (Place × Entry) := []
  home : Place := []
deriving Inhabited

namespace FileTree

/-- What is at a place.  The root is always a directory. -/
def find? (t : FileTree) (p : Place) : Option Entry :=
  if p = [] then some .directory else t.entries.lookup p

def put (t : FileTree) (p : Place) (e : Entry) : FileTree :=
  if t.entries.any (·.1 = p) then
    { t with entries := t.entries.map fun (q, f) => if q = p then (q, e) else (q, f) }
  else { t with entries := t.entries ++ [(p, e)] }

/-- Takes away a place and everything below it. -/
def erase (t : FileTree) (p : Place) : FileTree :=
  { t with entries := t.entries.filter fun (q, _) => !(p.isPrefixOf q) }

/-- The longest name that the system takes, in bytes. -/
def maxName : Nat := 255

/-- The longest path that the system takes, in bytes. -/
def maxPath : Nat := 4095

/-- Follows names from a place.  The place reached may not exist; all on the way to it does. -/
def follow (t : FileTree) : Place → List String → Except Errno Place
  | here, [] => .ok here
  | here, name :: rest =>
    match t.find? here with
    | none => .error .noEntry
    | some .directory =>
      if name = "" ∨ name = "." then follow t here rest
      else if name = ".." then follow t here.dropLast rest
      else if maxName < name.utf8ByteSize then .error .nameTooLong
      else follow t (here ++ [name]) rest
    | some _ => .error .notDirectory

/-- Follows names from where a path starts, if it can be a path at all. -/
def followFrom (t : FileTree) (path : String) (names : List String) : Except Errno Place :=
  if path.toList.contains '\x00' then .error .invalid
  else if path = "" then .error .noEntry
  else if maxPath < path.utf8ByteSize then .error .nameTooLong
  else t.follow (if Path.isRooted path then [] else t.home) names

/-- The place that a path leads to. -/
def locate (t : FileTree) (path : String) : Except Errno Place := t.followFrom path (Path.names path)

/-- What a path leads to. -/
def stat (t : FileTree) (path : String) : Except Errno Entry :=
  match t.locate path with
  | .error e => .error e
  | .ok p =>
    match t.find? p with
    | some e => .ok e
    | none => .error .noEntry

def isThere (t : FileTree) (path : String) : Bool := (t.stat path).toOption.isSome

def readFile (t : FileTree) (path : String) : Except Fault Content :=
  match t.stat path with
  | .error e => .error (.system "open" path e)
  | .ok .directory => .error (.system "read" path .isDirectory)
  | .ok (.file c) => .ok c
  | .ok .fullDevice => .ok (.bytes #[])

/-- The names before the last one, of a path with a slash after its last name. -/
def namesBeforeSlash? (path : String) : Option (List String) :=
  match (Path.names path).reverse with
  | "" :: rest =>
    match rest.dropWhile (· = "") with
    | last :: above => if last = "." ∨ last = ".." then none else some above.reverse
    | [] => none
  | _ => none

/-- The place of a file that is to be written, which may be there already or not.  A slash after the
last name makes it the name of a directory, whatever it leads to. -/
def locateForWriting (t : FileTree) (path : String) : Except Errno (Place × Option Entry) :=
  match namesBeforeSlash? path with
  | some above =>
    match t.followFrom path (above ++ ["."]) with
    | .error e => .error e
    | .ok _ => .error .isDirectory
  | none =>
    match t.locate path with
    | .error e => .error e
    | .ok p =>
      match t.find? p with
      | some .directory => .error .isDirectory
      | found => .ok (p, found)

/-- Creates a file or empties the one that is there, and tells its place. -/
def create (t : FileTree) (path : String) : Except Fault (FileTree × Place) :=
  match t.locateForWriting path with
  | .error e => .error (.system "open" path e)
  | .ok (p, some .fullDevice) => .ok (t, p)
  | .ok (p, _) => .ok (t.put p (.file (.bytes #[])), p)

/-- Writes a whole file.  An empty one is left behind where there is no room. -/
def writeFile (t : FileTree) (path : String) (content : Bytes) : FileTree × Except Fault Unit :=
  match t.create path with
  | .error f => (t, .error f)
  | .ok (t, p) =>
    match t.find? p with
    | some .fullDevice =>
      (t, if content.isEmpty then .ok () else .error (.system "write" path .noSpace))
    | _ => (t.put p (.file (.bytes content)), .ok ())

def makeDirectory (t : FileTree) (path : String) : Except Errno FileTree :=
  match t.locate path with
  | .error e =>
    -- A slash at the end of a new directory is no fault.
    match t.locate (String.ofList (Path.trimSlashes path.toList)) with
    | .error _ => .error e
    | .ok p => if (t.find? p).isSome then .error .exists else .ok (t.put p .directory)
  | .ok p => if (t.find? p).isSome then .error .exists else .ok (t.put p .directory)

/-- The path up to and with the slash before its last name. -/
def parentOf (path : String) : String :=
  String.ofList (((Path.trimSlashes path.toList).reverse.dropWhile (· ≠ '/')).reverse)

/-- Makes a directory and those above it, as far as they are missing.  `fuel` bounds how many
levels up it may have to go; the length of the path is enough. -/
def makeDirectoriesWithin (t : FileTree) : Nat → String → FileTree × Except Fault Unit
  | 0, path => (t, .error (.system "mkdir" path .noEntry))
  | fuel + 1, path =>
    match t.stat path with
    | .ok .directory => (t, .ok ())
    | .ok _ => (t, .error (.system "mkdir" path .notDirectory))
    | .error _ =>
      let parent := parentOf path
      let (t, above) :=
        if parent = "" then (t, .ok ()) else makeDirectoriesWithin t fuel parent
      match above with
      | .error f => (t, .error f)
      | .ok () =>
        match t.makeDirectory path with
        | .ok t => (t, .ok ())
        | .error e =>
          match t.stat path with
          | .ok .directory => (t, .ok ())
          | _ => (t, .error (.system "mkdir" path e))

/-- Makes a directory and those above it, as far as they are missing. -/
def makeDirectories (t : FileTree) (path : String) : FileTree × Except Fault Unit :=
  t.makeDirectoriesWithin (path.toList.length + 1) path

/-- The names in a directory with what they lead to, in byte order of the names. -/
def children (t : FileTree) (p : Place) : List (String × Entry) :=
  (t.entries.filterMap fun (q, e) =>
    if q ≠ [] ∧ q.dropLast = p then q.getLast?.map (·, e) else none).mergeSort
      fun a b => a.1 ≤ b.1

/-- The entries of a directory, in byte order of their names. -/
def list (t : FileTree) (path : String) : Except Fault (List (String × Entry)) :=
  match t.locate path with
  | .error e => .error (.system "open" path e)
  | .ok p =>
    match t.find? p with
    | none => .error (.system "open" path .noEntry)
    | some .directory => .ok (t.children p)
    | some _ => .error (.system "open" path .notDirectory)

/-- The regular files below a path, each with its path. -/
def filesBelow (t : FileTree) (path : String) : List (String × Bytes) :=
  match t.locate path with
  | .error _ => []
  | .ok p =>
    t.entries.filterMap fun (q, e) =>
      match e with
      | .file c =>
        if p.isPrefixOf q then
          some (if p = q then path else Path.join path (String.intercalate "/" (q.drop p.length)),
            c.data)
        else none
      | _ => none

/-- A tree with a working directory and a device that is always full. -/
def start : FileTree :=
  { entries := [(["work"], .directory), (["dev"], .directory), (["dev", "full"], .fullDevice)]
    home := ["work"] }

/-- Puts a file at a path, with the directories above it. -/
def provide (t : FileTree) (path : String) (e : Entry) : FileTree :=
  let t := if parentOf path = "" then t else (t.makeDirectories (parentOf path)).1
  match e with
  | .directory => (t.makeDirectories path).1
  | _ =>
    match t.locate path with
    | .ok p => t.put p e
    | .error _ => t

/-- Takes away what a path leads to, with everything below it. -/
def remove (t : FileTree) (path : String) : FileTree :=
  match t.locate path with
  | .ok p => t.erase p
  | .error _ => t

/-- Gives a file another path; nothing happens unless there is one. -/
def move (t : FileTree) (old new : String) : FileTree :=
  match t.stat old with
  | .ok (.file c) => (t.remove old).provide new (.file c)
  | _ => t

end FileTree
end GuestHost
