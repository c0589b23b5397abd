import GuestHost.Capability
import GuestHost.Machine

/-! # The functions of the host

The host offers its functions to guests capability by capability (`Environment.names`).  A call of
one of them (`HostFunction.run`) lets the bridge look at the caller's memory and carries out the
function.  When the bridge refuses, because a span is bad, the guest's computation stops. -/

namespace GuestHost

namespace Environment

/-- The functions that a capability offers, in the order in which they are offered. -/
def offers : Capability → List HostFunction
  | .logging => [.log, .logError, .logWarn, .logInfo, .logDebug, .logTrace]
  | .sound => [.soundPlay, .soundDropAll]
  | .files => [.requestFile, .fileLength, .fileType, .importFile, .giveFile]

/-- The functions that capabilities offer. -/
def functions (cs : List Capability) : List HostFunction := cs.flatMap offers

/-- The names under which capabilities offer functions. -/
def names (cs : List Capability) : List String := (functions cs).map HostFunction.name

def component : String := "wasm-host"

theorem mem_offers {c : Capability} {f : HostFunction} : f ∈ offers c ↔ f.capability = c := by
  cases c <;> cases f <;> decide

theorem mem_functions {cs : List Capability} {f : HostFunction} :
    f ∈ functions cs ↔ f.capability ∈ cs := by
  simp [functions, List.mem_flatMap, mem_offers]

end Environment

namespace HostFunction

/-- The level at which a function logs, for those that fix one. -/
def level? : HostFunction → Option GuestLevel
  | logError => some .error
  | logWarn => some .warn
  | logInfo => some .info
  | logDebug => some .debug
  | logTrace => some .trace
  | _ => none

/-- Carries out a function that works on guest memory.  A guest without memory gets no further than
the engine, so that nothing is logged. -/
def onMemory (f : HostFunction)
    (act : Bridge → Heap → Bridge × Heap × Except Fault Unit × Journal) : Exec UInt32 := fun m =>
  let (bridge, heap, result, records) := act (m.bridge.bind m.binding) m.heap
  let m := { m with bridge, heap, log := m.log ++ records }
  match result with
  | .ok () => (.ok 0, m)
  | .error .noMemory => (.error Ending.noMemory, m)
  | .error why =>
    (.error (.refused (.trailed (.hostFunction f.name why) Ending.recovered)),
      { m with log := m.log ++ [.error Environment.component "Host function trapped"
        [("function", .text f.name), ("error", .fault why)]] })

/-- Carries out a function of the bridge that cannot fail. -/
def onBridge (act : Bridge → Bridge × Journal) : Exec UInt32 := fun m =>
  let (bridge, records) := act m.bridge
  (.ok 0, { m with bridge, log := m.log ++ records })

def asking (ask : Bridge → UInt32) : Exec UInt32 := fun m => (.ok (ask m.bridge), m)

/-- Logs a span of memory. -/
def logging (f : HostFunction) (level : GuestLevel) (address length : UInt32) : Exec UInt32 :=
  f.onMemory fun b h =>
    let (b, r, records) := b.log h level address length
    (b, h, r, records)

/-- Carries out a call.  Functions without a result answer zero. -/
def run (f : HostFunction) (args : List Operand) : Exec UInt32 :=
  let word (i : Nat) : UInt32 := ((args[i]?).map Operand.toWord).getD 0
  let real (i : Nat) : Float := ((args[i]?).map Operand.toReal).getD 0
  match f with
  | log => f.logging (GuestLevel.ofCode (word 0)) (word 1) (word 2)
  | logError | logWarn | logInfo | logDebug | logTrace =>
    f.logging (f.level?.getD .info) (word 0) (word 1)
  | soundPlay => onBridge (·.play (real 0) (real 1))
  | soundDropAll => onBridge Bridge.dropAll
  | requestFile => onBridge Bridge.request
  | fileLength => asking (·.exchange.length)
  | fileType => asking fun b => UInt32.ofNat b.exchange.tag.code
  | importFile => f.onMemory fun b h => b.importFile h (word 0)
  | giveFile => f.onMemory fun b h =>
      let (b, r, records) := b.giveFile h (word 0) (word 1) (word 2) (word 3)
      (b, h, r, records)

end HostFunction
end GuestHost
