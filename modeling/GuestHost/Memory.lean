import GuestHost.Text.Utf8

/-! # Guest memories and their buffers

A guest's linear memory lives in a buffer.  Growing the memory puts it into another, larger
buffer, and whoever still holds the old one no longer sees the memory.  To speak about that,
buffers have identities.

* **Buffers** (`Heap.buffers`) are byte sequences of fixed length, told apart by their index.
* **Memories** (`Heap.memories`) name the buffer in which they live now, and can be made
  unreadable. -/

namespace GuestHost

namespace Bytes

/-- The bytes with those from `start` on replaced by `data`, as far as they reach. -/
def overwrite (b : Bytes) (start : Nat) (data : Bytes) : Bytes :=
  let n := min data.size (b.size - start)
  b.extract 0 start ++ data.extract 0 n ++ b.extract (start + n) b.size

/-- The `n` bytes from `start` on, cut off at the end. -/
def slice (b : Bytes) (start n : Nat) : Bytes := b.extract start (start + n)

/-- The bytes cut off or filled up with zeros to a length. -/
def resize (b : Bytes) (n : Nat) : Bytes := b.extract 0 n ++ Array.replicate (n - b.size) 0

/-- A 32-bit word as four bytes, the lowest first. -/
def ofWord (w : UInt32) : Bytes :=
  #[w.toUInt8, (w >>> 8).toUInt8, (w >>> 16).toUInt8, (w >>> 24).toUInt8]

/-- The 32-bit word in the four bytes from `start` on; `none` when they are not all there. -/
def word? (b : Bytes) (start : Nat) : Option UInt32 :=
  match b[start]?, b[start + 1]?, b[start + 2]?, b[start + 3]? with
  | some w, some x, some y, some z =>
    some (w.toUInt32 ||| (x.toUInt32 <<< 8) ||| (y.toUInt32 <<< 16) ||| (z.toUInt32 <<< 24))
  | _, _, _, _ => none

end Bytes

/-- A guest memory: where it lives now and whether it can be read. -/
structure Memory where
  buffer : Nat
  readable : Bool := true
deriving DecidableEq, Repr

/-- All buffers and memories there are. -/
structure Heap where
  buffers : Array Bytes := #[]
  memories : Array Memory := #[]
deriving Inhabited

namespace Heap

def bytes (h : Heap) (buffer : Nat) : Bytes := h.buffers.getD buffer #[]

/-- The contents of a memory's live buffer; `none` when there is no such memory. -/
def live? (h : Heap) (memory : Nat) : Option Bytes :=
  (h.memories[memory]?).map fun m => h.bytes m.buffer

/-- Adds a memory with given contents and tells its number. -/
def allocate (h : Heap) (contents : Bytes) : Heap × Nat :=
  (⟨h.buffers.push contents, h.memories.push { buffer := h.buffers.size }⟩, h.memories.size)

def relocate (h : Heap) (memory : Nat) (contents : Bytes) : Heap :=
  ⟨h.buffers.push contents,
    h.memories.modify memory fun m => { m with buffer := h.buffers.size }⟩

/-- Moves a memory into a new buffer of another length that keeps the contents. -/
def resize (h : Heap) (memory n : Nat) : Heap :=
  match h.live? memory with
  | some b => h.relocate memory (b.resize n)
  | none => h

def setReadable (h : Heap) (memory : Nat) (readable : Bool) : Heap :=
  ⟨h.buffers, h.memories.modify memory fun m => { m with readable }⟩

def writeBuffer (h : Heap) (buffer start : Nat) (data : Bytes) : Heap :=
  ⟨h.buffers.modify buffer fun b => Bytes.overwrite b start data, h.memories⟩

/-- Overwrites bytes of a memory's live buffer, as far as they reach. -/
def write (h : Heap) (memory start : Nat) (data : Bytes) : Heap :=
  match h.memories[memory]? with
  | some m => h.writeBuffer m.buffer start data
  | none => h

end Heap
end GuestHost
