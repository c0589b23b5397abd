import GuestHost.Exchange
import GuestHost.Pool

/-! # What guests can do

The bridge carries out the functions that a guest calls: it writes log messages, plays tones and
exchanges files.  Spans of guest memory are read and written through a view that follows the
memory as it grows.

A guest that passes a bad span has its call refused with a failure; then nothing has changed.
Whatever else goes wrong, a picker that does not open, a tone that does not start, an artifact that
cannot be handed over, is logged and the guest goes on. -/

namespace GuestHost

/-- Everything that one guest's calls work on. -/
structure Bridge where
  view : View := {}
  exchange : Exchange := { queue := some {} }
  pool : Pool := {}
  synth : Synth := {}
  deliveries : Deliveries := {}
  /-- The component under which the guest's messages are written, if any. -/
  scope : Option String := none

/-- What a bridge works with.  Chosen files always wait in the bridge's own queue. -/
structure BridgeOptions where
  files : ExchangeConfig := {}
  pool : PoolConfig := {}
  synth : Synth := {}
  deliveries : Deliveries := {}
  scope : Option String := none

namespace Bridge

/-- The part of the host that speaks here. -/
def component : String := "bridge"

/-- A bridge that looks at no memory yet. -/
def new (o : BridgeOptions) : Bridge :=
  { exchange := Exchange.new { o.files with queued := true }, pool := Pool.new o.pool
    synth := o.synth, deliveries := o.deliveries, scope := o.scope }

/-- Lets the view follow a memory; nothing to follow changes nothing. -/
def bind (b : Bridge) (m : Binding) : Bridge :=
  if m = .nothing then b else { b with view := b.view.bind m }

/-- The record of a guest's message. -/
def messageRecord (scope : Option String) (level : GuestLevel) (text : String) : Record :=
  let base : Record := { severity := .info, component := scope, message := text, speaker := "guest" }
  match level with
  | .error => { base with severity := .error }
  | .warn => { base with severity := .warn }
  | .info => base
  | .debug => { base with severity := .debug }
  | .trace => { base with severity := .debug, details := [("guest_level", .text level.name)] }
  | .other n => { base with details := [("guest_level", .whole n.toNat)] }

/-- Writes a guest's message. -/
def log (b : Bridge) (h : Heap) (level : GuestLevel) (address length : UInt32) :
    Bridge × Except Fault Unit × Journal :=
  match b.view.readText h address length with
  | (view, .error f) => ({ b with view }, .error f, [])
  | (view, .ok text) => ({ b with view }, .ok (), [messageRecord b.scope level text])

/-- Starts a tone. -/
def play (b : Bridge) (frequency volume : Float) : Bridge × Journal :=
  let (pool, synth, r, log) := b.pool.play b.synth frequency volume
  ({ b with pool, synth },
    match r with
    | .ok () => log
    | .error f => log ++ [.warn component "Tone not started" [("error", .fault f)]])

/-- Stops all tones of the guest. -/
def dropAll (b : Bridge) : Bridge × Journal :=
  let (pool, synth, _, log) := b.pool.dropAll b.synth
  ({ b with pool, synth }, log)

/-- Asks for a file. -/
def request (b : Bridge) : Bridge × Journal :=
  let (exchange, files, log) := b.exchange.request b.deliveries.files
  ({ b with exchange, deliveries := { b.deliveries with files } }, log)

/-- Applies the choices that wait. -/
def dispatch (b : Bridge) : Bridge × Nat × Journal :=
  let (exchange, n, log) := b.exchange.drain
  ({ b with exchange }, n, log)

/-- Copies the pending file into guest memory; without one nothing happens. -/
def importFile (b : Bridge) (h : Heap) (dest : UInt32) :
    Bridge × Heap × Except Fault Unit × Journal :=
  let c := b.exchange.consume b.view h dest
  let b := { b with exchange := c.exchange, view := c.view }
  match c.result with
  | .ok _ => (b, c.heap, .ok (), c.log)
  | .error (.notReady stage) =>
    (b, c.heap, .ok (),
      c.log ++ [.debug component "Import ignored" [("error", .fault (.notReady stage))]])
  | .error f => (b, c.heap, .error f, c.log)

/-- Hands a text out under a name. -/
def giveFile (b : Bridge) (h : Heap) (nameAddress nameLength textAddress textLength : UInt32) :
    Bridge × Except Fault Unit × Journal :=
  match b.view.readText h nameAddress nameLength with
  | (view, .error f) => ({ b with view }, .error f, [])
  | (view, .ok name) =>
    match view.readText h textAddress textLength with
    | (view, .error f) => ({ b with view }, .error f, [])
    | (view, .ok text) =>
      let (deliveries, f, log) := b.exchange.give b.deliveries name text
      ({ b with view, deliveries }, .ok (),
        match f with
        | none => log
        | some f => log ++ [.error component "Export failed" [("error", .fault f)]])

/-- Stops all tones and ends every open picker. -/
def close (b : Bridge) : Bridge × Journal :=
  let (b, log) := b.dropAll
  ({ b with exchange := b.exchange.close }, log)

end Bridge
end GuestHost
