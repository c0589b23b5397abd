import GuestHost.Capability
import GuestHost.Module
import GuestHost.SystemInterface

/-! # Modules that can be compiled

A module is compiled only if its parts fit each other (`Module.wellFormed`).

* **Memory.**  Data and instructions that read, write or grow memory need a module with memory
  (`Instr.usesMemory`).
* **Names.**  The memory is exported under the name `memory`, which no function may have then.
* **Types.**  A call passes as many arguments as the function takes, and where its result is used
  the function has one (`Instr.typed`).  After an instruction that stops the guest nothing is ever
  carried out, and so the instructions that follow it in the same body may use any result. -/

namespace GuestHost

namespace Import

/-- The number of arguments that an imported function takes; an unknown one takes none. -/
def arity (f : Import) : Nat :=
  if f.module = HostFunction.moduleName then
    ((HostFunction.ofName? f.name).map HostFunction.arity).getD 0
  else if f.module = SystemFunction.moduleName then
    ((SystemFunction.ofName? f.name).map SystemFunction.arity).getD 0
  else 0

/-- Whether an imported function has a result; an unknown one has none. -/
def answers (f : Import) : Bool :=
  if f.module = HostFunction.moduleName then
    ((HostFunction.ofName? f.name).map HostFunction.answers).getD false
  else if f.module = SystemFunction.moduleName then
    ((SystemFunction.ofName? f.name).map SystemFunction.answers).getD false
  else false

end Import

namespace Instr

mutual

/-- Whether an instruction works on memory. -/
def usesMemory : Instr → Bool
  | store .. | set .. | increment _ | grow .. | ifEqual .. => true
  | ifCall _ body => anyUsesMemory body
  | call .. | trap | spin => false

def anyUsesMemory : List Instr → Bool
  | [] => false
  | i :: r => i.usesMemory || anyUsesMemory r

end

mutual

/-- Whether an instruction passes the right number of arguments and uses only results that are
there.  An instruction that is not `reachable` may do as it likes, its body may not. -/
def typed (reachable : Bool) : Instr → Bool
  | call f args => !reachable || args.length = f.arity
  | store _ f args => !reachable || (args.length = f.arity && f.answers)
  | ifCall f body => (!reachable || (f.arity = 0 && f.answers)) && allTyped true body
  | ifEqual _ _ body => allTyped true body
  | set .. | increment _ | grow .. | trap | spin => true

def allTyped (reachable : Bool) : List Instr → Bool
  | [] => true
  | trap :: r => allTyped false r
  | i :: r => i.typed reachable && allTyped reachable r

end

/-- Whether an instruction stops the guest for sure. -/
def isTrap : Instr → Bool
  | trap => true
  | _ => false

end Instr

namespace Function

/-- Whether a function works on memory. -/
def usesMemory (f : Function) : Bool :=
  Instr.anyUsesMemory f.body ||
    match f.result with
    | .word _ => true
    | .nothing | .answer _ => false

/-- Whether the calls of a function are well typed. -/
def typed (f : Function) : Bool :=
  Instr.allTyped true f.body &&
    match f.result with
    | .answer g => f.body.any Instr.isTrap || (g.arity = 0 && g.answers)
    | .nothing | .word _ => true

end Function

namespace Module

def memoryName : String := "memory"

/-- Whether the parts of a module fit each other. -/
def wellFormed (m : Module) : Bool :=
  (match m.pages with
    | none => m.data.isEmpty && !m.exports.any fun (_, f) => f.usesMemory
    | some _ => !m.hasExport memoryName) &&
  m.exports.all fun (_, f) => f.typed

end Module
end GuestHost
