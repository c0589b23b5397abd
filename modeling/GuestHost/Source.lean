import GuestHost.FileTree

/-! # Where modules come from

A module is given as it is, named by a file path, or named by a path inside a directory.  The name
of a source is the key under which its module is kept once it was compiled. -/

namespace GuestHost

/-- Where a module comes from. -/
inductive Source
  | given (name : String) (content : Content)
  | file (path : String)
  /-- A path below a directory; the module is kept under the path if `id` is empty. -/
  | inside (directory path id : String)

namespace Source

/-- The key under which the module is kept. -/
def name : Source → String
  | given name _ => name
  | file path => path
  | inside _ path id => if id = "" then path else id

/-- A failure told of another path. -/
def retold (path : String) : Fault → Fault
  | .system operation _ why => .system operation path why
  | f => f

/-- A path written behind a directory, as they are. -/
def below (directory path : String) : String :=
  if directory.toList.getLast? = some '/' then directory ++ path else directory ++ "/" ++ path

/-- Reads a path below a directory.  Only paths in canonical form are followed, and failures are
told of the path as it was given. -/
def readInside (t : FileTree) (directory path : String) : Except Fault Content :=
  if directory = "" then
    .error (.system "readfile" path .noRoot)
  else if !Path.isCanonical path || path.toList.contains '\x00' then
    .error (.system "readfile" path .invalid)
  else
    match t.readFile (below directory path) with
    | .ok c => .ok c
    | .error f => .error (retold path f)

def read (t : FileTree) : Source → Except Fault Content
  | given _ content => .ok content
  | file path => t.readFile path
  | inside directory path _ => readInside t directory path

end Source
end GuestHost
