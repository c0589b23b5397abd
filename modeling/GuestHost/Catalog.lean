import GuestHost.Registry

/-! # Installed guests

The catalog knows the guests in one directory.  It looks there once, when it is first asked, and
keeps what it found.  `Catalog.resolve` takes a path to a guest, or the name of an installed one;
a path that exists comes first. -/

namespace GuestHost

/-- The guests installed in a directory. -/
structure Catalog where
  directory : String
  registry : Registry := {}
  /-- Whether the directory was looked through. -/
  loaded : Bool := false

namespace Catalog

def component : String := "guest-manager"

/-- Takes guests in one after the other.  Those whose name is taken are left out. -/
def registerAll (r : Registry) : List Guest → Registry × Journal
  | [] => (r, [])
  | g :: rest =>
    let (r, f, log) := r.register g
    let refused : Journal := match f with
      | none => []
      | some f => [.error component "Failed to register guest"
          [("name", .text g.name), ("error", .fault f)]]
    let (r, more) := registerAll r rest
    (r, log ++ refused ++ more)

/-- Looks through the directory, unless that was done or there is none. -/
def loadAll (c : Catalog) (e : Engine) (t : FileTree) :
    Catalog × Engine × Option Fault × Journal :=
  if c.loaded || c.directory = "" then (c, e, none, [])
  else
    match Guest.discover e t c.directory with
    | (e, .error f, log) => (c, e, some f, log)
    | (e, .ok guests, log) =>
      let (registry, more) := registerAll c.registry guests
      ({ c with registry, loaded := true }, e, none,
        log ++ more ++ [.info component "Guests discovered"
          [("path", .text c.directory), ("count", .whole registry.size)]])

/-- The guest that a target stands for. -/
def resolve (c : Catalog) (e : Engine) (t : FileTree) (target : String) :
    Catalog × Engine × Except Fault Guest × Journal :=
  if t.isThere target then
    let (e, r, log) := Guest.load e t target
    (c, e, r, log)
  else
    match c.loadAll e t with
    | (c, e, some f, log) => (c, e, .error f, log)
    | (c, e, none, log) =>
      match c.registry.get? target with
      | some g => (c, e, .ok g, log)
      | none => (c, e, .error (.guestUnknown target), log)

/-- The installed guests in byte order of their names. -/
def list (c : Catalog) (e : Engine) (t : FileTree) :
    Catalog × Engine × Except Fault (List Guest) × Journal :=
  match c.loadAll e t with
  | (c, e, some f, log) => (c, e, .error f, log)
  | (c, e, none, log) => (c, e, .ok c.registry.sorted, log)

end Catalog
end GuestHost
