import GuestHost.Capability
import GuestHost.FileTree
import GuestHost.Yaml.Visit

/-! # Guest manifests

A guest directory holds a manifest that names the guest, its module file, the exports to call and
the capabilities it needs.

* `Manifest.Draft` is what a manifest says, read from its YAML document.  Words of any kind count
  as text, as they are written.
* `Manifest.check` turns a draft into a manifest or tells the first field that is not usable.
* `Manifest.load` reads the manifest of a directory, and `Manifest.bare` stands in for one when a
  guest is given as a lone module file. -/

namespace GuestHost

/-- A usable manifest. -/
structure Manifest where
  name : String
  version : String
  description : String := ""
  author : String := ""
  license : String := ""
  /-- The module file, relative to the guest directory. -/
  file : String
  /-- Exports called once, in order, as far as the module has them. -/
  start : List String
  frame : String
  capabilities : List Capability
  directory : String
deriving Repr, Inhabited

namespace Manifest

def fileName : String := "manifest.yaml"

/-- The export called for every frame unless the manifest says otherwise. -/
def standardFrame : String := "frame"

/-- The exports called once unless the manifest says otherwise. -/
def standardStart : List String := ["_initialize"]

def pathIn (directory : String) : String := Path.join directory fileName

def path (m : Manifest) : String := pathIn m.directory

def modulePath (m : Manifest) : String := Path.join m.directory m.file

def grants (m : Manifest) (c : Capability) : Bool := m.capabilities.contains c

/-- What a manifest says, not yet checked. -/
structure Draft where
  name : String := ""
  version : String := ""
  description : String := ""
  author : String := ""
  license : String := ""
  file : String := ""
  /-- `none` when nothing is said about start exports. -/
  start : Option (List String) := none
  frame : String := ""
  capabilities : List String := []
deriving Repr, Inhabited

/-! ### Reading a draft -/

/-- A node of a document, in the place where it is met. -/
abbrev Place := Yaml.Document × Yaml.Trail × Yaml.Node

/-- Goes to a node, through an alias if need be. -/
def arrive (p : Place) : Yaml.Visit (Yaml.Trail × Yaml.Node) :=
  Yaml.Visit.arrive Yaml.Visit.aliasLimit p.1 p.2.1 p.2.2

/-- A word as text; `none` for nothing. -/
def word (p : Place) : Yaml.Visit (Option String) := do
  let (_, n) ← arrive p
  Yaml.Visit.ofOption n.written?

/-- A list of words; nothing among them is passed over.  `none` when nothing is said. -/
def words (p : Place) : Yaml.Visit (Option (List String)) := do
  let (trail, n) ← arrive p
  match n with
  | .sequence items =>
    let ws ← items.mapM fun n => word (p.1, trail, n)
    pure (some (ws.filterMap id))
  | n =>
    match n.meaning? with
    | some .null => pure none
    | _ => failure

/-- Takes a mapping into a record; nothing leaves the record as it is. -/
def record {σ : Type} (known : List String) (field : σ → String → Place → Yaml.Visit σ) (s : σ)
    (p : Place) : Yaml.Visit σ := do
  let (trail, n) ← arrive p
  match n with
  | .mapping es =>
    let form : Yaml.Visit.Form σ :=
      { anyKey := false, once := known.contains
        put := fun trail s key n => field s key.keyText (p.1, trail, n) }
    let (_, s) ← Yaml.Visit.fill p.1 form p.1.reach trail none s es
    pure s
  | n =>
    match n.meaning? with
    | some .null => pure s
    | _ => failure

def Draft.moduleFields : List String := ["file", "start", "frame"]

/-- Takes in a field about the module. -/
def Draft.moduleField (d : Draft) (key : String) (p : Place) : Yaml.Visit Draft := do
  match key with
  | "file" => pure { d with file := (← word p).getD d.file }
  | "start" => pure { d with start := ← words p }
  | "frame" => pure { d with frame := (← word p).getD d.frame }
  | _ => pure d

/-- The fields of a manifest; others are passed over. -/
def Draft.fields : List String :=
  ["name", "version", "description", "author", "license", "capabilities", "wasm"]

def Draft.field (d : Draft) (key : String) (p : Place) : Yaml.Visit Draft := do
  match key with
  | "name" => pure { d with name := (← word p).getD d.name }
  | "version" => pure { d with version := (← word p).getD d.version }
  | "description" => pure { d with description := (← word p).getD d.description }
  | "author" => pure { d with author := (← word p).getD d.author }
  | "license" => pure { d with license := (← word p).getD d.license }
  | "capabilities" => pure { d with capabilities := (← words p).getD [] }
  | "wasm" => record Draft.moduleFields Draft.moduleField d p
  | _ => pure d

def Draft.ofDocument (doc : Yaml.Document) : Yaml.Visit Draft := do
  Yaml.Visit.node []
  record Draft.fields Draft.field {} (doc, [], doc.root)

/-- Reads a draft from a YAML text; `none` when it is none. -/
def Draft.ofBytes? (b : Bytes) : Option Draft :=
  match Yaml.Document.ofBytes? b with
  | none => none
  | some none => some {}
  | some (some doc) => ((ofDocument doc).run {}).map (·.1)

/-! ### Checking -/

/-- Whether a module file is certainly not there. -/
def isMissing (t : FileTree) (path : String) : Bool :=
  match t.stat path with
  | .error .noEntry => true
  | _ => false

/-- The manifest of a draft, or the first thing wrong with it. -/
def check (t : FileTree) (directory : String) (d : Draft) : Except Fault Manifest :=
  let refuse (field why : String) : Except Fault Manifest :=
    .error (.manifestInvalid (pathIn directory) field why)
  if d.name = "" then refuse "name" "name is required"
  else if d.version = "" then refuse "version" "version is required"
  else if d.file = "" then refuse "wasm.file" "wasm.file is required"
  else if !Path.isLocal d.file then
    refuse "wasm.file" ("wasm.file must stay inside the guest directory: " ++ d.file)
  else if d.capabilities.isEmpty then
    refuse "capabilities" "at least one capability is required"
  else
    match Capability.ofNames d.capabilities with
    | .error n =>
      refuse "capabilities"
        ("unknown capability: " ++ n ++ " (must be one of: logging, sound, files)")
    | .ok capabilities =>
      if isMissing t (Path.join directory d.file) then
        .error (.moduleFileMissing (pathIn directory) d.file)
      else
        .ok
          { name := d.name, version := d.version, description := d.description
            author := d.author, license := d.license, file := d.file
            start := d.start.getD standardStart
            frame := if d.frame = "" then standardFrame else d.frame
            capabilities, directory }

/-- Reads and checks the manifest of a directory. -/
def load (t : FileTree) (directory : String) : Except Fault Manifest :=
  match t.readFile (pathIn directory) with
  | .error f => .error (.manifestMissing (pathIn directory) f)
  | .ok c =>
    match Draft.ofBytes? c.data with
    | none => .error (.manifestSyntax (pathIn directory))
    | some d => check t directory d

/-- The manifest of a guest given as a lone module file: it declares every capability. -/
def bare (modulePath : String) : Manifest :=
  { name := Path.stem modulePath, version := "0.0.0", file := Path.base modulePath
    start := standardStart, frame := standardFrame, capabilities := Capability.all
    directory := Path.dir modulePath }

end Manifest
end GuestHost
