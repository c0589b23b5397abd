import GuestHost.Memory
import Mathlib.Tactic.SplitIfs

/-! # How memories change

Guests write to their memories and grow them, and the host allocates new ones.  None of that goes
through a view.

* **Bytes.**  Overwriting replaces a span and nothing else (`Bytes.Written`).
* **Changes** (`Heap.Change`).  Memories are allocated, written, made readable or unreadable, and
  grown.  Growing moves a memory into a new buffer that begins with the old contents and is longer,
  with at most `2 ^ 32` bytes; an attempt to do otherwise changes nothing.
* **Apart** (`Heap.Apart`).  No two memories live in the same buffer.
* **Order** (`Heap.Extends`).  After any change every memory is where it was, with the same length,
  or it has grown. -/

namespace GuestHost

/-! ### Bytes -/

namespace Bytes

@[simp] theorem size_overwrite (b : Bytes) (start : Nat) (data : Bytes) :
    (b.overwrite start data).size = b.size := by
  simp only [overwrite, Array.size_append, Array.size_extract]
  omega

theorem getElem?_overwrite (b : Bytes) (start : Nat) (data : Bytes) (i : Nat)
    (h : start + data.size ≤ b.size) :
    (b.overwrite start data)[i]? =
      if start ≤ i ∧ i < start + data.size then data[i - start]? else b[i]? := by
  have hn : min data.size (b.size - start) = data.size := by omega
  simp only [overwrite, hn, Array.getElem?_append, Array.getElem?_extract, Array.size_append,
    Array.size_extract, Nat.sub_zero, Nat.zero_add, Nat.min_self]
  rcases Nat.lt_or_ge i start with hlt | hge
  · rw [if_pos (by omega), if_pos (by omega), if_pos (by omega), if_neg (by omega)]
  · rcases Nat.lt_or_ge i (start + data.size) with hin | hout
    · rw [if_pos (by omega), if_neg (by omega), if_pos (by omega), if_pos (by omega)]
      congr 1
      omega
    · rw [if_neg (by omega), if_neg (c := start ≤ i ∧ _) (by omega)]
      split_ifs with hi
      · congr 1
        omega
      · exact (Array.getElem?_eq_none (by omega)).symm

/-- The second bytes are the first with data written at `start` and nothing else changed. -/
structure Written (b : Bytes) (start : Nat) (data b' : Bytes) : Prop where
  inside : start + data.size ≤ b.size
  size : b'.size = b.size
  bytes : ∀ i, b'[i]? = if start ≤ i ∧ i < start + data.size then data[i - start]? else b[i]?

theorem written_overwrite {b : Bytes} {start : Nat} {data : Bytes} (h : start + data.size ≤ b.size) :
    b.Written start data (b.overwrite start data) :=
  ⟨h, size_overwrite b start data, fun i => getElem?_overwrite b start data i h⟩

end Bytes

namespace Heap

/-! ### Buffers -/

theorem bytes_writeBuffer (h : Heap) (k start : Nat) (data : Bytes) (j : Nat) :
    (h.writeBuffer k start data).bytes j
      = if j = k then (h.bytes k).overwrite start data else h.bytes j := by
  simp only [bytes, writeBuffer, Array.getD_eq_getD_getElem?, Array.getElem?_modify]
  by_cases hj : j = k
  · subst hj
    rw [if_pos rfl, if_pos rfl]
    cases h.buffers[j]? with
    | none => simp [Bytes.overwrite]
    | some b => rfl
  · rw [if_neg (Ne.symm hj), if_neg hj]

theorem size_bytes_writeBuffer (h : Heap) (k start : Nat) (data : Bytes) (j : Nat) :
    ((h.writeBuffer k start data).bytes j).size = (h.bytes j).size := by
  rw [bytes_writeBuffer]
  split_ifs with hj
  · rw [Bytes.size_overwrite, hj]
  · rfl

theorem bytes_push (h : Heap) (contents : Bytes) (memories : Array Memory) (j : Nat) :
    bytes ⟨h.buffers.push contents, memories⟩ j
      = if j = h.buffers.size then contents else h.bytes j := by
  simp only [bytes, Array.getD_eq_getD_getElem?, Array.getElem?_push]
  split_ifs <;> rfl

/-! ### Changes -/

/-- What happens to memories without a view. -/
inductive Change
  /-- A new memory. -/
  | allocate (contents : Bytes)
  /-- Bytes of a memory are overwritten. -/
  | write (memory start : Nat) (data : Bytes)
  /-- A memory becomes readable or unreadable. -/
  | setReadable (memory : Nat) (readable : Bool)
  /-- A memory gets more bytes at its end. -/
  | grow (memory : Nat) (more : Bytes)

/-- Makes a change.  A memory grows only by some bytes and up to `2 ^ 32` of them. -/
def change (h : Heap) : Change → Heap
  | .allocate contents => (h.allocate contents).1
  | .write memory start data => h.write memory start data
  | .setReadable memory readable => h.setReadable memory readable
  | .grow memory more =>
    match h.live? memory with
    | some b =>
      if more.size ≠ 0 ∧ b.size + more.size ≤ UInt32.size then h.relocate memory (b ++ more) else h
    | none => h

/-! ### Memories live apart -/

/-- Every memory has a buffer of its own. -/
structure Apart (h : Heap) : Prop where
  inside : ∀ (i : Nat) (m : Memory), h.memories[i]? = some m → m.buffer < h.buffers.size
  unique : ∀ (i j : Nat) (m n : Memory), h.memories[i]? = some m → h.memories[j]? = some n →
    m.buffer = n.buffer → i = j

theorem apart_empty : Apart {} := by
  constructor <;> simp

section apart
variable {h : Heap}

theorem Apart.writeBuffer (hh : h.Apart) (k start : Nat) (data : Bytes) :
    (h.writeBuffer k start data).Apart := by
  constructor
  · intro i m hm
    simp only [Heap.writeBuffer, Array.size_modify]
    exact hh.inside i m hm
  · exact hh.unique

/-- A memory that gets a new buffer is apart from all others. -/
theorem Apart.of_push (hh : h.Apart) {h' : Heap} (k : Nat)
    (hsize : h'.buffers.size = h.buffers.size + 1)
    (hcases : ∀ (i : Nat) (m : Memory), h'.memories[i]? = some m →
      (i = k ∧ m.buffer = h.buffers.size) ∨ h.memories[i]? = some m) : h'.Apart := by
  constructor
  · intro i m hm
    rcases hcases i m hm with ⟨-, hb⟩ | hold
    · omega
    · have := hh.inside i m hold
      omega
  · intro i j m n hm hn heq
    rcases hcases i m hm with ⟨hi, hb⟩ | hi <;> rcases hcases j n hn with ⟨hj, hb'⟩ | hj
    · omega
    · have := hh.inside j n hj
      omega
    · have := hh.inside i m hi
      omega
    · exact hh.unique i j m n hi hj heq

theorem Apart.allocate (hh : h.Apart) (contents : Bytes) : (h.allocate contents).1.Apart := by
  refine hh.of_push h.memories.size (Array.size_push _) ?_
  intro i m hm
  simp only [Heap.allocate, Array.getElem?_push] at hm
  split_ifs at hm with hi
  · obtain rfl := Option.some.inj hm
    exact .inl ⟨hi, rfl⟩
  · exact .inr hm

theorem Apart.relocate (hh : h.Apart) (memory : Nat) (contents : Bytes) :
    (h.relocate memory contents).Apart := by
  refine hh.of_push memory (Array.size_push _) ?_
  intro i m hm
  simp only [Heap.relocate, Array.getElem?_modify] at hm
  split_ifs at hm with hi
  · obtain ⟨m', -, rfl⟩ := Option.map_eq_some_iff.mp hm
    exact .inl ⟨hi.symm, rfl⟩
  · exact .inr hm

theorem Apart.setReadable (hh : h.Apart) (memory : Nat) (readable : Bool) :
    (h.setReadable memory readable).Apart := by
  have hcases : ∀ (i : Nat) (m : Memory), (h.setReadable memory readable).memories[i]? = some m →
      ∃ m', h.memories[i]? = some m' ∧ m.buffer = m'.buffer := by
    intro i m hm
    simp only [Heap.setReadable, Array.getElem?_modify] at hm
    split_ifs at hm with hi
    · obtain ⟨m', hm', rfl⟩ := Option.map_eq_some_iff.mp hm
      exact ⟨m', hm', rfl⟩
    · exact ⟨m, hm, rfl⟩
  constructor
  · intro i m hm
    obtain ⟨m', hm', hb⟩ := hcases i m hm
    rw [hb]
    exact hh.inside i m' hm'
  · intro i j m n hm hn heq
    obtain ⟨m', hm', hb⟩ := hcases i m hm
    obtain ⟨n', hn', hb'⟩ := hcases j n hn
    exact hh.unique i j m' n' hm' hn' (by rw [← hb, ← hb', heq])

theorem Apart.change (hh : h.Apart) (c : Change) : (h.change c).Apart := by
  cases c with
  | allocate contents => exact hh.allocate contents
  | write memory start data =>
      simp only [Heap.change, Heap.write]
      split
      · exact hh.writeBuffer _ _ _
      · exact hh
  | setReadable memory readable => exact hh.setReadable memory readable
  | grow memory more =>
      simp only [Heap.change]
      split
      · split_ifs
        · exact hh.relocate _ _
        · exact hh
      · exact hh

end apart

/-! ### Memories only grow -/

/-- Every memory is still there: in its buffer, with its length, or in a longer one. -/
def Extends (h h' : Heap) : Prop :=
  ∀ (i : Nat) (m : Memory), h.memories[i]? = some m → ∃ m', h'.memories[i]? = some m' ∧
    ((m'.buffer = m.buffer ∧ (h'.bytes m'.buffer).size = (h.bytes m.buffer).size) ∨
      ((h.bytes m.buffer).size < (h'.bytes m'.buffer).size ∧
        (h'.bytes m'.buffer).size ≤ UInt32.size))

theorem extends_refl (h : Heap) : h.Extends h := fun _ m hm => ⟨m, hm, .inl ⟨rfl, rfl⟩⟩

theorem extends_writeBuffer (h : Heap) (k start : Nat) (data : Bytes) :
    h.Extends (h.writeBuffer k start data) :=
  fun _ m hm => ⟨m, hm, .inl ⟨rfl, size_bytes_writeBuffer h k start data m.buffer⟩⟩

theorem extends_allocate {h : Heap} (hh : h.Apart) (contents : Bytes) :
    h.Extends (h.allocate contents).1 := by
  intro i m hm
  have hlt : i < h.memories.size := (Array.getElem?_eq_some_iff.mp hm).1
  have hb := hh.inside i m hm
  refine ⟨m, ?_, .inl ⟨rfl, ?_⟩⟩
  · simp only [allocate, Array.getElem?_push]
    rw [if_neg (by omega), hm]
  · simp only [allocate, bytes_push]
    rw [if_neg (by omega)]

theorem extends_relocate {h : Heap} (hh : h.Apart) {memory : Nat} {b contents : Bytes}
    (hb : h.live? memory = some b) (hlt : b.size < contents.size)
    (hle : contents.size ≤ UInt32.size) : h.Extends (h.relocate memory contents) := by
  intro i m hm
  have hin := hh.inside i m hm
  by_cases hi : memory = i
  · subst hi
    refine ⟨{ m with buffer := h.buffers.size }, ?_, .inr ?_⟩
    · simp only [relocate, Array.getElem?_modify, if_pos, hm, Option.map_some]
    · simp only [live?, hm, Option.map_some, Option.some.injEq] at hb
      simp only [relocate, bytes_push, if_pos, hb]
      exact ⟨hlt, hle⟩
  · refine ⟨m, ?_, .inl ⟨rfl, ?_⟩⟩
    · simp only [relocate, Array.getElem?_modify, if_neg hi, hm]
    · simp only [relocate, bytes_push]
      rw [if_neg (by omega)]

theorem extends_setReadable (h : Heap) (memory : Nat) (readable : Bool) :
    h.Extends (h.setReadable memory readable) := by
  intro i m hm
  by_cases hi : memory = i
  · subst hi
    exact ⟨{ m with readable }, by simp [setReadable, Array.getElem?_modify, hm], .inl ⟨rfl, rfl⟩⟩
  · exact ⟨m, by simp [setReadable, Array.getElem?_modify, hi, hm], .inl ⟨rfl, rfl⟩⟩

theorem extends_change {h : Heap} (hh : h.Apart) (c : Change) : h.Extends (h.change c) := by
  cases c with
  | allocate contents => exact extends_allocate hh contents
  | write memory start data =>
      simp only [change, write]
      split
      · exact extends_writeBuffer h _ _ _
      · exact extends_refl h
  | setReadable memory readable => exact extends_setReadable h memory readable
  | grow memory more =>
      simp only [change]
      split
      · rename_i b hb
        split_ifs with hmore
        · refine extends_relocate hh hb ?_ ?_ <;> rw [Array.size_append] <;> omega
        · exact extends_refl h
      · exact extends_refl h

end Heap
end GuestHost
