import GuestHost.Bridge
import GuestHost.Module

/-! # What a running guest works on

While a guest function runs it reads and writes its memory, and calls functions that are not its
own.  All of that is kept in a `Machine`, and a computation of the guest (`Exec`) changes the
machine and either comes to a value or stops early.

* **Endings** (`Ending`) are the ways to stop early: a trap, a call that was refused, an exit, or no
  end at all.
* **Words** of memory are read with `Exec.load` and written with `Exec.store`; outside the memory
  both trap.
* `Exec.grow` makes the memory larger, within the limit of the machine. -/

namespace GuestHost

/-- What a guest wrote on its standard streams. -/
structure Output where
  standard : Bytes := #[]
  error : Bytes := #[]
deriving Inhabited

/-- What a running guest works on. -/
structure Machine where
  bridge : Bridge
  heap : Heap
  /-- The guest's memory; `none` for a guest without one. -/
  memory : Option Nat
  /-- The largest number of pages that the memory can grow to. -/
  pageLimit : Nat
  output : Output := {}
  /-- How the guest came to be closed, if it was. -/
  closing : Option Closing := none
  log : Journal := []

namespace Machine

def bytes? (m : Machine) : Option Bytes := m.memory.bind m.heap.live?

/-- What the bridge is to look at while the guest calls it. -/
def binding (m : Machine) : Binding :=
  match m.memory with
  | some id => .memory id
  | none => .absent

end Machine

/-- Why a guest's computation stops early. -/
inductive Ending
  | trap (why : Trap)
  /-- A call that could not be carried out. -/
  | refused (why : Fault)
  | exit (code : UInt32)
  | endless

namespace Ending

/-- What the engine adds to the text of a call that it had to break off. -/
def recovered : String := " (recovered by wazero)"

/-- A guest without memory that passes a span has its call broken off. -/
def noMemory : Ending := .refused (.trailed .noMemory recovered)

/-- What a caller is told about a function that stopped early. -/
def fault (function : String) : Ending → Fault
  | trap why => .trapped why
  | refused why => why
  | exit code => .exited (.code code)
  | endless => .endless function

end Ending

/-- A computation of a guest. -/
def Exec (α : Type) : Type := Machine → Except Ending α × Machine

namespace Exec

instance : Monad Exec where
  pure a := fun m => (.ok a, m)
  bind x f := fun m =>
    match x m with
    | (.ok a, m) => f a m
    | (.error e, m) => (.error e, m)

def stop {α : Type} (e : Ending) : Exec α := fun m => (.error e, m)

@[simp] theorem pure_apply {α : Type} (a : α) (m : Machine) : (pure a : Exec α) m = (.ok a, m) := rfl

@[simp] theorem stop_apply {α : Type} (e : Ending) (m : Machine) :
    (stop e : Exec α) m = (.error e, m) := rfl

theorem bind_apply {α β : Type} (x : Exec α) (f : α → Exec β) (m : Machine) :
    (x >>= f) m = match x m with
      | (.ok a, m) => f a m
      | (.error e, m) => (.error e, m) := rfl

def load (address : UInt32) : Exec UInt32 := fun m =>
  match m.bytes?.bind (·.word? address.toNat) with
  | some w => (.ok w, m)
  | none => (.error (.trap .outOfBounds), m)

def store (address value : UInt32) : Exec Unit := fun m =>
  match m.memory, m.bytes? with
  | some id, some b =>
    if address.toNat + 4 ≤ b.size then
      (.ok (), { m with heap := m.heap.write id address.toNat (Bytes.ofWord value) })
    else (.error (.trap .outOfBounds), m)
  | _, _ => (.error (.trap .outOfBounds), m)

/-- The answer of an attempt to grow beyond the limit. -/
def cannotGrow : UInt32 := 0xFFFFFFFF

/-- Grows the memory by a number of pages and answers how many it had. -/
def grow (pages : UInt32) : Exec UInt32 := fun m =>
  match m.memory, m.bytes? with
  | some id, some b =>
    let now := b.size / pageSize
    if m.pageLimit < now + pages.toNat then (.ok cannotGrow, m)
    else if pages = 0 then (.ok (UInt32.ofNat now), m)
    else
      (.ok (UInt32.ofNat now),
        { m with heap := m.heap.resize id ((now + pages.toNat) * pageSize) })
  | _, _ => (.ok cannotGrow, m)

end Exec
end GuestHost
