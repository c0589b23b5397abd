import GuestHost.Guest

/-! # Guests by name

A registry holds guests under their names.  A name is taken by the first guest that asks for it,
until that guest is taken out again. -/

namespace GuestHost

/-- Guests, no two of the same name. -/
structure Registry where
  guests : List Guest := []

namespace Registry

def component : String := "guest-registry"

def get? (r : Registry) (name : String) : Option Guest := r.guests.find? (·.name = name)

def size (r : Registry) : Nat := r.guests.length

/-- Takes in a guest, unless its name is taken. -/
def register (r : Registry) (g : Guest) : Registry × Option Fault × Journal :=
  match r.get? g.name with
  | some _ => (r, some (.guestDuplicate g.name), [])
  | none =>
    (⟨r.guests ++ [g]⟩, none,
      [.debug component "Guest registered"
        [("name", .text g.name), ("version", .text g.manifest.version)]])

def unregister (r : Registry) (name : String) : Registry × Journal :=
  match r.get? name with
  | none => (r, [])
  | some _ =>
    (⟨r.guests.filter (·.name ≠ name)⟩,
      [.debug component "Guest unregistered" [("name", .text name)]])

/-- The guests in byte order of their names. -/
def sorted (r : Registry) : List Guest := r.guests.mergeSort fun a b => a.name ≤ b.name

end Registry
end GuestHost
