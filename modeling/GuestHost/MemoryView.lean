import GuestHost.Fault
import GuestHost.Memory

/-! # A window over guest memory

Every call across the boundary may grow the guest's memory, after which a window obtained earlier
no longer shows the live buffer.  The view therefore checks its window against the memory's
current size before each access, and takes a new one when it is missing, empty or of another
length.

* `View.bind` attaches the view to a memory; another memory drops the window.
* `View.revalidate` renews the window if it is stale, and changes nothing when it cannot.
* `View.lend` gives out the part of a window that a span covers, `View.read` the bytes there.
* `View.read` and `View.write` check the span without wrap-around and touch nothing outside it.
* `View.readText` reads a span as strict UTF-8. -/

namespace GuestHost

/-- What a view looks at. -/
inductive Binding
  | nothing
  /-- A guest that has no memory. -/
  | absent
  | memory (id : Nat)
deriving DecidableEq, Repr

/-- The first `length` bytes of a buffer. -/
structure Window where
  buffer : Nat
  length : Nat
deriving DecidableEq, Repr

/-- A part of a buffer that is lent out.  It shows `length` bytes and could be extended to `capacity`
of them. -/
structure Slice where
  buffer : Nat
  start : Nat
  length : Nat
  capacity : Nat
deriving DecidableEq, Repr

def Slice.bytes (s : Slice) (h : Heap) : Bytes := (h.bytes s.buffer).slice s.start s.length

namespace Window

/-- The end of a span, if the span lies in the window.  The sum is taken in 64 bits, where it does
not wrap around. -/
def span? (w : Window) (address length : UInt32) : Option UInt32 :=
  let last := address.toUInt64 + length.toUInt64
  if last.toNat ≤ w.length then some last.toUInt32 else none

/-- The bytes of a window from `low` up to `high`, which cannot be extended beyond `limit`. -/
def cut (w : Window) (low high limit : UInt32) : Slice :=
  ⟨w.buffer, low.toNat, (high - low).toNat, (limit - low).toNat⟩

end Window

/-- A view of a guest's memory with the window it holds. -/
structure View where
  binding : Binding := .nothing
  window : Option Window := none
deriving DecidableEq, Repr, Inhabited

namespace View

/-- Attaches the view.  The window survives only if nothing changes. -/
def bind (v : View) (b : Binding) : View := if v.binding = b then v else ⟨b, none⟩

def isBound (v : View) : Bool := v.binding ≠ .nothing

/-- A window that is not empty and has the memory's current size is kept. -/
def Fresh (w : Window) (size : Nat) : Prop := w.length ≠ 0 ∧ w.length % UInt32.size = size

instance (w : Window) (size : Nat) : Decidable (Fresh w size) := by unfold Fresh; infer_instance

/-- Renews the window if it is stale. -/
def revalidate (v : View) (h : Heap) : Except Fault (View × Window) :=
  match v.binding with
  | .nothing => .error .unbound
  | .absent => .error .noMemory
  | .memory id =>
    match h.memories[id]? with
    | none => .error .noMemory
    | some m =>
      let size := (h.bytes m.buffer).size % UInt32.size
      let renewed : Except Fault (View × Window) :=
        if m.readable then
          let w : Window := ⟨m.buffer, size⟩
          .ok ({ v with window := some w }, w)
        else .error (.memoryAccess .revalidate 0 size)
      match v.window with
      | some w => if Fresh w size then .ok (v, w) else renewed
      | none => renewed

/-- The number of bytes in view, zero when there are none to see. -/
def length (v : View) (h : Heap) : View × Nat :=
  match v.revalidate h with
  | .ok (v, w) => (v, w.length)
  | .error _ => (v, 0)

/-- Lends a span out.  Nothing behind its end can be reached through the slice. -/
def lend (v : View) (h : Heap) (address length : UInt32) : View × Except Fault Slice :=
  match v.revalidate h with
  | .error e => (v, .error e)
  | .ok (v, w) =>
    match w.span? address length with
    | some last => (v, .ok (w.cut address last last))
    | none => (v, .error (.memoryAccess .read address.toNat length.toNat))

def read (v : View) (h : Heap) (address length : UInt32) : View × Except Fault Bytes :=
  match v.revalidate h with
  | .error e => (v, .error e)
  | .ok (v, w) =>
    if address.toNat + length.toNat ≤ w.length then
      (v, .ok ((h.bytes w.buffer).slice address.toNat length.toNat))
    else (v, .error (.memoryAccess .read address.toNat length.toNat))

/-- Copies data into the span that starts at an address.  The length of the span is the length of
the data in 32 bits. -/
def write (v : View) (h : Heap) (address : UInt32) (data : Bytes) : View × Heap × Except Fault Unit :=
  match v.revalidate h with
  | .error e => (v, h, .error e)
  | .ok (v, w) =>
    let n := data.size % UInt32.size
    if address.toNat + n ≤ w.length then
      (v, h.writeBuffer w.buffer address.toNat (data.extract 0 n), .ok ())
    else (v, h, .error (.memoryAccess .write address.toNat n))

/-- The text of bytes that came from a span. -/
def textOf (address : UInt32) (b : Bytes) : Except Fault String :=
  match Utf8.decode b.toList with
  | .ok cs => .ok (String.ofList cs)
  | .error offset => .error (.malformedText address.toNat b.size offset)

def readText (v : View) (h : Heap) (address length : UInt32) : View × Except Fault String :=
  match v.read h address length with
  | (v, .error e) => (v, .error e)
  | (v, .ok b) => (v, textOf address b)

end View
end GuestHost
