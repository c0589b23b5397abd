import GuestHost.Classifier
import GuestHost.EventQueue
import GuestHost.Journal
import GuestHost.MemoryView
import GuestHost.Outlet
import GuestHost.Selection

/-! # The file exchange

One guest at a time imports files that the user chooses and exports artifacts.

**Import** is a handshake by polling.  The guest asks for a file, polls the length of the pending
file until there is one, reads its tag, and has it copied into its memory.

* `Exchange.new` starts with nothing pending and nothing asked for.
* `Exchange.request` opens the picker and does not wait for it.
* `Exchange.deliver` is called when the user has chosen.  With a queue the choice waits there until
  `Exchange.drain`; without one it is applied at once.
* `Exchange.complete` makes a choice the pending file.  There is one at most: a later one takes its
  place.
* `Exchange.consume` copies the pending file into guest memory and clears the slot; when the copy
  fails the file stays.

**Export** (`Exchange.give`) hands a text to the outlet and does not touch the pending file. -/

namespace GuestHost

/-- The selected file that was not consumed yet. -/
structure Pending where
  name : String
  data : Bytes
  tag : FileTag
deriving DecidableEq, Repr

/-- The state of the exchange. -/
structure Exchange where
  classifier : Classifier := Classifier.standard
  /-- The picker, told by what comes of its first opening, its second, and so on. -/
  picker : Option (Nat → Opening) := none
  outlet : Option (Outlet Recipient) := none
  /-- The queue in which choices wait; without one they are applied at once. -/
  queue : Option (EventQueue Selection) := none
  /-- How often the picker was opened. -/
  openings : Nat := 0
  pending : Option Pending := none
  /-- Whether a file was asked for since the last choice was applied. -/
  awaiting : Bool := false
  closed : Bool := false
  /-- Whether the user ended the run from the picker. -/
  interrupted : Bool := false
  /-- The time at which artifacts are made. -/
  now : Timestamp := 0

/-- What an exchange works with. -/
structure ExchangeConfig where
  /-- The extensions told apart; none at all mean the standard ones. -/
  classifier : Classifier := ⟨"", ""⟩
  picker : Option (Nat → Opening) := none
  outlet : Option (Outlet Recipient) := none
  queued : Bool := false
  now : Timestamp := 0

namespace Exchange

def component : String := "file-exchange"

/-- An exchange in which nothing was asked for yet. -/
def new (c : ExchangeConfig) : Exchange :=
  { classifier := c.classifier.orStandard, picker := c.picker, outlet := c.outlet
    queue := if c.queued then some {} else none, now := c.now }

/-- Where the import handshake stands. -/
def stage (x : Exchange) : Handshake :=
  if x.pending.isSome then .ready else if x.awaiting then .requested else .idle

/-- The length of the pending file in 32 bits, zero when there is none. -/
def length (x : Exchange) : UInt32 :=
  match x.pending with
  | some p => UInt32.ofNat p.data.size
  | none => 0

/-- The tag of the pending file, unknown when there is none. -/
def tag (x : Exchange) : FileTag :=
  match x.pending with
  | some p => p.tag
  | none => .unknown

/-- Makes a choice the pending file. -/
def complete (x : Exchange) (s : Selection) : Exchange × Journal :=
  let tag := x.classifier.classify s.name
  let dropped : Journal := match x.pending with
    | some p =>
      [.info component "Pending file replaced before it was consumed" [("dropped", .text p.name)]]
    | none => []
  ({ x with pending := some ⟨s.name, s.data, tag⟩, awaiting := false },
    dropped ++ [.info component "File ready for import"
      [("name", .text s.name), ("size_bytes", .whole s.data.size), ("type", .whole tag.code)]])

/-- Takes a choice from the picker. -/
def deliver (x : Exchange) (s : Selection) : Exchange × Journal :=
  match x.queue with
  | none => x.complete s
  | some q => ({ x with queue := some (q.post s) }, [])

/-- Asks for a file: opens the picker without waiting for the choice. -/
def request (x : Exchange) (t : FileTree) : Exchange × FileTree × Journal :=
  let x := { x with awaiting := true }
  match x.picker with
  | none => (x, t, [.warn component "File import requested but no picker is configured"])
  | some picker =>
    let opened : Record := .debug component "Opening file picker"
    let (t, outcome, said) := (picker x.openings).settled t
    let x := { x with openings := x.openings + 1 }
    match outcome with
    | .waits | .watches _ => (x, t, opened :: said)
    | .delivers s =>
      let (x, log) := x.deliver s
      (x, t, opened :: log)
    | .fails why =>
      (x, t, [opened, .error component "Failed to open file picker" [("error", .fault why)]])
    | .interrupts => ({ x with interrupted := true }, t, [opened])

def queued (x : Exchange) : Nat :=
  match x.queue with
  | some q => q.pending
  | none => 0

/-- Applies a waiting choice, which posts no further ones. -/
def apply (s : Exchange × Journal) (c : Selection) : (Exchange × Journal) × List Selection :=
  let (x, log) := s.1.complete c
  ((x, s.2 ++ log), [])

/-- Applies the choices that wait, and tells how many there were. -/
def drain (x : Exchange) : Exchange × Nat × Journal :=
  match x.queue with
  | none => (x, 0, [])
  | some q =>
    let ((y, log), rest, n) := q.drain apply (x, [])
    ({ y with queue := some rest }, n, log)

/-- What consuming the pending file comes to. -/
structure Consumption where
  exchange : Exchange
  view : View
  heap : Heap
  result : Except Fault Nat
  log : Journal

/-- Copies the pending file into guest memory and clears the slot. -/
def consume (x : Exchange) (v : View) (h : Heap) (dest : UInt32) : Consumption :=
  match x.pending with
  | none => ⟨x, v, h, .error (.notReady x.stage), []⟩
  | some p =>
    match v.write h dest p.data with
    | (v, h, .error f) => ⟨x, v, h, .error f, []⟩
    | (v, h, .ok ()) =>
      ⟨{ x with pending := none }, v, h, .ok p.data.size,
        [.debug component "File consumed by guest"
          [("name", .text p.name), ("dest", .whole dest.toNat),
            ("size_bytes", .whole p.data.size)]]⟩

/-- Hands a text to the outlet. -/
def give (x : Exchange) (d : Deliveries) (name text : String) :
    Deliveries × Option Fault × Journal :=
  match x.outlet with
  | none =>
    (d, none, [.warn component "Artifact dropped, no sink configured" [("name", .text name)]])
  | some o =>
    let content := Utf8.encode text
    let (d, faults) := d.receive o { name, content, createdAt := x.now }
    match Fault.gather faults with
    | some f => (d, some (.undelivered name f), [])
    | none =>
      (d, none, [.info component "Artifact delivered"
        [("name", .text name), ("size_bytes", .whole content.size)]])

/-- Ends every open picker. -/
def close (x : Exchange) : Exchange := { x with closed := true }

end Exchange
end GuestHost
