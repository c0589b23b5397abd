import GuestHost.Engine
import GuestHost.Manifest

/-! # Guests

A guest is a manifest with a compiled module that keeps to it.

* `Guest.load` takes a directory with a manifest, or a lone module file, which may use every
  capability.
* `Guest.importFault?` is the rule about imports: a guest may import a function of the host only if
  the function is known and its capability is declared.  Imports from elsewhere are left to the
  engine.
* `Guest.discover` loads every guest directory in a directory and passes over the broken ones. -/

namespace GuestHost

/-- A loaded guest. -/
structure Guest where
  manifest : Manifest
  compiled : Compiled
deriving Inhabited

namespace Guest

def component : String := "guest-loader"

def name (g : Guest) : String := g.manifest.name

def hasFrame (g : Guest) : Bool := g.compiled.module.hasExport g.manifest.frame

/-- What an instance of the guest is made of. -/
def request (g : Guest) : InstanceRequest :=
  { module := g.compiled.name
    capabilities := g.manifest.capabilities.map Capability.name
    start := g.manifest.start
    exports := [g.manifest.frame] }

/-- What is wrong with an import. -/
def importFault? (m : Manifest) (i : Import) : Option Fault :=
  if i.module ≠ HostFunction.moduleName then none
  else
    match HostFunction.capabilityOf? i.name with
    | none => some (.plain ("unknown host function " ++ i.module ++ "." ++ i.name))
    | some c => if m.grants c then none else some (.capabilityMissing m.name i.name c.name)

/-- The first thing wrong with the imports of a module. -/
def importsFault? (m : Manifest) (imports : List Import) : Option Fault :=
  imports.findSome? (importFault? m)

/-- Compiles the module of a manifest and checks its imports. -/
def loadModule (e : Engine) (t : FileTree) (m : Manifest) (s : Source) :
    Engine × Except Fault Guest × Journal :=
  let begun : Record := .info component "Loading guest"
    [("name", .text m.name), ("version", .text m.version), ("wasm", .text m.modulePath)]
  match e.load t s with
  | (e, .error f, log) => (e, .error (.guestRejected m.name f), begun :: log)
  | (e, .ok c, log) =>
    match importsFault? m c.module.imports with
    | some f => (e, .error (.guestRejected m.name f), begun :: log)
    | none =>
      let g : Guest := ⟨m, c⟩
      let idle : Journal :=
        if g.hasFrame then []
        else [.warn component "Guest has no frame export; it only runs its start functions"
          [("name", .text m.name), ("frame", .text m.frame)]]
      (e, .ok g,
        begun :: log ++ idle ++ [.info component "Guest loaded successfully" [("name", .text m.name)]])

/-- Where the module of a guest directory comes from. -/
def source (m : Manifest) : Source := .inside m.directory m.file m.modulePath

def loadDirectory (e : Engine) (t : FileTree) (dir : String) :
    Engine × Except Fault Guest × Journal :=
  let begun : Record := .debug component "Loading guest" [("dir", .text dir)]
  match Manifest.load t dir with
  | .error f => (e, .error f, [begun])
  | .ok m =>
    let (e, r, log) := loadModule e t m (source m)
    (e, r, begun :: log)

def moduleExtension : String := ".wasm"

/-- Loads a guest from a directory or from a lone module file. -/
def load (e : Engine) (t : FileTree) (path : String) : Engine × Except Fault Guest × Journal :=
  match t.stat path with
  | .error why => (e, .error (.within ("guest " ++ path) (.system "stat" path why)), [])
  | .ok .directory => loadDirectory e t path
  | .ok _ =>
    if Path.ext path ≠ moduleExtension then
      (e, .error (.plain ("guest " ++ path ++ ": expected a directory or a .wasm file")), [])
    else
      let m := Manifest.bare path
      loadModule e t m (.file m.modulePath)

/-! ### Discovery -/

/-- What comes of looking for guests. -/
structure Findings where
  engine : Engine
  guests : List Guest := []
  failed : Nat := 0
  log : Journal := []

/-- Loads one guest directory and notes what comes of it. -/
def visit (t : FileTree) (s : Findings) (dir : String) : Findings :=
  match loadDirectory s.engine t dir with
  | (engine, .ok g, log) => { s with engine, guests := s.guests ++ [g], log := s.log ++ log }
  | (engine, .error f, log) =>
    { s with
      engine, failed := s.failed + 1
      log := s.log ++ log ++ [.error component "Failed to load guest"
        [("dir", .text dir), ("error", .fault f)]] }

/-- The directories in a directory, by path. -/
def directoriesIn (base : String) (entries : List (String × Entry)) : List String :=
  (entries.filter (·.2.isDirectory)).map fun (name, _) => Path.join base name

/-- Loads all guest directories in a directory.  A directory that is not there has none. -/
def discover (e : Engine) (t : FileTree) (base : String) :
    Engine × Except Fault (List Guest) × Journal :=
  let begun : Record := .debug component "Scanning guest directory" [("path", .text base)]
  match t.list base with
  | .error (.system _ _ .noEntry) =>
    (e, .ok [], [begun, .warn component "Guest path does not exist" [("path", .text base)]])
  | .error f => (e, .error (.within ("failed to read directory '" ++ base ++ "'") f), [begun])
  | .ok entries =>
    let s := (directoriesIn base entries).foldl (visit t) { engine := e }
    let summary : Journal :=
      if s.failed = 0 then []
      else [.warn component "Some guests failed to load"
        [("loaded", .whole s.guests.length), ("failed", .whole s.failed)]]
    (s.engine, .ok s.guests, begun :: s.log ++ summary)

end Guest
end GuestHost
