import GuestHost.Capability
import GuestHost.Fault
import GuestHost.Path
import GuestHost.Text.Utf8
import GuestHost.Timestamp

/-! # Artifacts

An artifact is a text file that a guest produces for the user.  Guests name artifacts freely;
`Artifact.fileName?` is the name under which one is kept: the last component that is left when
backslashes count as slashes and `.` and `..` are resolved from the root.  So a name can never lead
out of the directory into which artifacts are put. -/

namespace GuestHost

/-- A text file produced by a guest. -/
structure Artifact where
  name : String
  content : Bytes
  mediaType : String := artifactMediaType
  createdAt : Timestamp := 0
deriving DecidableEq, Repr, Inhabited

namespace Artifact

/-- A name with every backslash turned into a slash. -/
def slashed (name : String) : String :=
  String.ofList (name.toList.map fun c => if c = '\\' then '/' else c)

/-- The components of a name, resolved from the root. -/
def components (name : String) : List String := Path.components ("/" ++ slashed name)

/-- The file name of an artifact: the last name of its cleaned path from the root; `none` when that
is no name. -/
def fileName? (name : String) : Option String :=
  let base := Path.base (Path.clean ("/" ++ slashed name))
  if base = "/" ∨ base = "." ∨ base = "" then none else some base

end Artifact
end GuestHost
