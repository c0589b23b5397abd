import GuestHost.FileTree
import GuestHost.Journal

/-! # Choosing files

A guest that asks for a file has the user choose one.  What the user chose is a `Selection`, and
what comes of asking is an `Opening`: files may be chosen at once, later, or never.

A directory that is to be watched for files is made when it is missing (`Opening.settled`). -/

namespace GuestHost

/-- A file that the user chose, read into memory. -/
structure Selection where
  name : String
  data : Bytes
deriving DecidableEq, Repr, Inhabited

/-- Reads the file at a path; it goes by the last name of the path. -/
def Selection.read (t : FileTree) (path : String) : Except Fault Selection :=
  match t.readFile path with
  | .ok c => .ok ⟨Path.base path, c.data⟩
  | .error f => .error (.unreadable path f)

/-- What comes of opening the picker. -/
inductive Opening
  | waits
  /-- The user has chosen already. -/
  | delivers (s : Selection)
  | fails (why : Fault)
  /-- The user ends the whole run instead. -/
  | interrupts
  | watches (directory : String)

namespace Opening

/-- The part of the host that watches directories. -/
def watcher : String := "inbox-picker"

def watch (t : FileTree) (directory : String) : FileTree × Except Fault Journal :=
  match t.makeDirectories directory with
  | (t, .ok ()) =>
    (t, .ok [.info watcher "Waiting for a file in the inbox" [("dir", .text directory)]])
  | (t, .error f) => (t, .error (.within ("failed to create inbox " ++ directory) f))

/-- What an opening comes to with the files there are, and what the watcher says. -/
def settled (t : FileTree) : Opening → FileTree × Opening × Journal
  | watches directory =>
    match watch t directory with
    | (t, .ok said) => (t, waits, said)
    | (t, .error why) => (t, fails why, [])
  | o => (t, o, [])

end Opening
end GuestHost
