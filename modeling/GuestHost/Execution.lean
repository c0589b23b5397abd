import GuestHost.Environment
import GuestHost.SystemInterface

/-! # Running guest functions

The instructions of a guest function are carried out one after the other.  An instruction that
stops the computation leaves everything that was done before it.

* `Exec.call` calls an imported function, of the host or of the system interface.
* `Instr.run` and `Instr.runAll` carry out instructions.
* `Function.run` runs a whole function and gives its results. -/

namespace GuestHost

/-- Calls an imported function.  One that nobody provides traps: an instance is not made unless all
its imports are there. -/
def Exec.call (f : Import) (args : List Operand) : Exec UInt32 :=
  if f.module = HostFunction.moduleName then
    match HostFunction.ofName? f.name with
    | some g => g.run args
    | none => .stop (.trap .unreachable)
  else if f.module = SystemFunction.moduleName then
    match SystemFunction.ofName? f.name with
    | some g => g.run args
    | none => .stop (.trap .unreachable)
  else .stop (.trap .unreachable)

mutual

def Instr.run : Instr → Exec Unit
  | .call f args => do
    let _ ← Exec.call f args
    pure ()
  | .store address f args => do
    let w ← Exec.call f args
    Exec.store address w
  | .set address value => Exec.store address value
  | .increment address => do
    let w ← Exec.load address
    Exec.store address (w + 1)
  | .grow address pages => do
    let w ← Exec.grow pages
    Exec.store address w
  | .ifCall f body => do
    let w ← Exec.call f []
    if w ≠ 0 then Instr.runAll body else pure ()
  | .ifEqual address value body => do
    let w ← Exec.load address
    if w = value then Instr.runAll body else pure ()
  | .trap => .stop (.trap .unreachable)
  | .spin => .stop .endless

def Instr.runAll : List Instr → Exec Unit
  | [] => pure ()
  | i :: r => do
    Instr.run i
    Instr.runAll r

end

/-- What a function returns. -/
def Result.run : Result → Exec (List UInt32)
  | .nothing => pure []
  | .answer f => do
    let w ← Exec.call f []
    pure [w]
  | .word address => do
    let w ← Exec.load address
    pure [w]

def Function.run (f : Function) : Exec (List UInt32) := do
  Instr.runAll f.body
  f.result.run

end GuestHost
