import GuestHost.Capability
import GuestHost.Text.Fields

/-! # Telling a file by its name

The tag of a file is told from the text between the first and the second dot of its name.
Matching is exact: with the extensions `l3` and `l3x`, `data.l3x` is secondary, while `data.L3X`,
`data.backup.l3x` and `data` are unknown. -/

namespace GuestHost

/-- The two extensions that are told apart. -/
structure Classifier where
  primary : String
  secondary : String
deriving DecidableEq, Repr

namespace Classifier

/-- The extensions used when none are chosen. -/
def standard : Classifier := ⟨"l3", "l3x"⟩

/-- No extensions at all mean the standard ones. -/
def orStandard (c : Classifier) : Classifier := if c = ⟨"", ""⟩ then standard else c

/-- The text between the first and the second dot, if it is not empty. -/
def extension? (name : String) : Option String :=
  match Fields.split '.' name.toList with
  | _ :: (c :: e) :: _ => some (String.ofList (c :: e))
  | _ => none

def classify (c : Classifier) (name : String) : FileTag :=
  match extension? name with
  | none => .unknown
  | some e => if e = c.primary then .primary else if e = c.secondary then .secondary else .unknown

end Classifier
end GuestHost
