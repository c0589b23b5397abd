import GuestHost.Artifact

/-! # The shelf of downloads

Artifacts that are offered for download are kept on a shelf, one per file name: a later artifact
takes the place of an earlier one of the same file name. -/

namespace GuestHost

/-- Artifacts offered for download, one per file name. -/
structure Shelf where
  artifacts : List Artifact := []
deriving DecidableEq, Repr, Inhabited

namespace Shelf

def get? (s : Shelf) (name : String) : Option Artifact := s.artifacts.find? (·.name = name)

/-- Puts an artifact on the shelf under its file name. -/
def put (s : Shelf) (a : Artifact) : Shelf × Option Fault :=
  match Artifact.fileName? a.name with
  | none => (s, some (.artifactName a.name))
  | some name => (⟨{ a with name } :: s.artifacts.filter (·.name ≠ name)⟩, none)

def sorted (s : Shelf) : List Artifact := s.artifacts.mergeSort fun a b => a.name ≤ b.name

end Shelf
end GuestHost
