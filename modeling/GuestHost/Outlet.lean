import GuestHost.FileTree
import GuestHost.Shelf

/-! # Where artifacts go

An outlet hands artifacts over to the user.  Outlets can be put together: an artifact goes to
every part, whatever happens at the others, and every failure is told.

* `Outlet.deliver` walks over any outlet, given what a single part does.
* `Recipient` lists the parts there are: a folder, the shelf of downloads, a plain collection, one
  that always refuses, and any other, told by what it does. -/

namespace GuestHost

/-- A recipient, or several outlets one after the other. -/
inductive Outlet (ι : Type)
  | single (recipient : ι)
  | fan (parts : List (Outlet ι))

namespace Outlet

variable {ι σ : Type}

mutual

/-- Hands an artifact to every recipient from left to right, and gathers the failures. -/
def deliver (act : ι → σ → Artifact → σ × Option Fault) (a : Artifact) :
    Outlet ι → σ → σ × List Fault
  | single r, s =>
    let (s, f) := act r s a
    (s, f.toList)
  | fan parts, s => deliverAll act a parts s

/-- Hands an artifact to several outlets from left to right. -/
def deliverAll (act : ι → σ → Artifact → σ × Option Fault) (a : Artifact) :
    List (Outlet ι) → σ → σ × List Fault
  | [], s => (s, [])
  | o :: os, s =>
    let (s, fs) := deliver act a o s
    let (s, gs) := deliverAll act a os s
    (s, fs ++ gs)

end

end Outlet

/-- What artifacts have been handed over so far. -/
structure Deliveries where
  files : FileTree := {}
  shelf : Shelf := {}
  collected : List Artifact := []
deriving Inhabited

/-- A single recipient of artifacts. -/
inductive Recipient
  /-- Writes each artifact as a file into a directory. -/
  | folder (directory : String)
  /-- Offers artifacts for download. -/
  | downloads
  | collection
  | refusal (why : Fault)
  /-- Does with an artifact whatever it likes. -/
  | other (act : Deliveries → Artifact → Deliveries × Option Fault)

namespace Recipient

/-- Writes an artifact into a directory, which is made when it is missing. -/
def writeInto (directory : String) (t : FileTree) (a : Artifact) : FileTree × Option Fault :=
  match Artifact.fileName? a.name with
  | none => (t, some (.artifactName a.name))
  | some name =>
    match t.makeDirectories directory with
    | (t, .error f) =>
      (t, some (.within ("failed to create download dir " ++ directory) f))
    | (t, .ok ()) =>
      match t.writeFile (Path.join directory name) a.content with
      | (t, .error f) => (t, some f)
      | (t, .ok ()) => (t, none)

def receive (r : Recipient) (d : Deliveries) (a : Artifact) : Deliveries × Option Fault :=
  match r with
  | folder directory =>
    let (files, f) := writeInto directory d.files a
    ({ d with files }, f)
  | downloads =>
    let (shelf, f) := d.shelf.put a
    ({ d with shelf }, f)
  | collection => ({ d with collected := d.collected ++ [a] }, none)
  | refusal why => (d, some why)
  | other act => act d a

end Recipient

def Deliveries.receive (d : Deliveries) (o : Outlet Recipient) (a : Artifact) :
    Deliveries × List Fault := o.deliver Recipient.receive a d

end GuestHost
