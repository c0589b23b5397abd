import GuestHost.Proofs.Memory.Coherence

/-! # Spans of a memory are a lens

A guest passes addresses and lengths of 32 bits, whose sum may be larger.  A view takes such a span
just when it lies in the memory.  Then the span can be read and written like a variable, and nothing
else changes.

* **Bytes.**  What was written is read back, writing what is there changes nothing, of two writes to
  one span the later one stays, and writes to separate spans can be made in any order.  The same holds
  of the buffers of a heap.
* **Ends** (`Window.span?_cases`).  The end of a span, taken in 64 bits and narrowed to 32, is the sum
  of address and length as numbers.
* **Views that face a memory** (`View.Faces`) are coherent and bound to a memory that can be read.
  Every access through such a view is told by one equation (`Faces.read`, `Faces.lend`,
  `Faces.write_snd`), and the view still faces the memory afterwards (`Faces.write`).

`spans_obey_lens_laws` puts this together for memories of less than `2 ^ 32` bytes. -/

namespace GuestHost

/-! ### Bytes -/

namespace Bytes

theorem size_slice {b : Bytes} {start n : Nat} (h : start + n ≤ b.size) : (b.slice start n).size = n := by
  simp only [slice, Array.size_extract]
  omega

theorem getElem?_slice (b : Bytes) (start n k : Nat) (h : start + n ≤ b.size) :
    (b.slice start n)[k]? = if k < n then b[start + k]? else none := by
  simp only [slice, Array.getElem?_extract]
  split_ifs <;> first | rfl | omega

theorem slice_overwrite {b : Bytes} {start : Nat} {data : Bytes} (h : start + data.size ≤ b.size) :
    (b.overwrite start data).slice start data.size = data := by
  apply Array.ext_getElem?
  intro k
  rw [getElem?_slice _ _ _ _ (by rwa [size_overwrite]), getElem?_overwrite _ _ _ _ h]
  by_cases hk : k < data.size
  · rw [if_pos hk, if_pos (by omega), Nat.add_sub_cancel_left]
  · rw [if_neg hk]
    exact (Array.getElem?_eq_none (by omega)).symm

theorem overwrite_slice {b : Bytes} {start n : Nat} (h : start + n ≤ b.size) :
    b.overwrite start (b.slice start n) = b := by
  have hsize := size_slice h
  apply Array.ext_getElem?
  intro k
  rw [getElem?_overwrite _ _ _ _ (by omega), hsize, getElem?_slice _ _ _ _ h]
  split_ifs with hin
  · congr 1
    omega
  · omega
  · rfl

/-- Of two writes to one span the later one stays. -/
theorem overwrite_overwrite {b : Bytes} {start : Nat} {data more : Bytes}
    (h : start + data.size ≤ b.size) (hsize : more.size = data.size) :
    (b.overwrite start data).overwrite start more = b.overwrite start more := by
  apply Array.ext_getElem?
  intro k
  rw [getElem?_overwrite _ _ _ _ (by rw [size_overwrite]; omega), getElem?_overwrite _ _ _ _ h,
    getElem?_overwrite _ _ _ _ (by omega), hsize]
  split_ifs <;> rfl

/-- No place is in both of two spans, told by their starts and lengths. -/
def Separate (start n start' n' : Nat) : Prop :=
  ∀ k, ¬ ((start ≤ k ∧ k < start + n) ∧ (start' ≤ k ∧ k < start' + n'))

/-- Writes to separate spans can be made in any order. -/
theorem overwrite_comm {b : Bytes} {start start' : Nat} {data data' : Bytes}
    (h : start + data.size ≤ b.size) (h' : start' + data'.size ≤ b.size)
    (hseparate : Separate start data.size start' data'.size) :
    (b.overwrite start data).overwrite start' data' = (b.overwrite start' data').overwrite start data := by
  apply Array.ext_getElem?
  intro k
  rw [getElem?_overwrite _ _ _ _ (by rwa [size_overwrite]), getElem?_overwrite _ _ _ _ h,
    getElem?_overwrite _ _ _ _ (by rwa [size_overwrite]), getElem?_overwrite _ _ _ _ h']
  have hk := hseparate k
  by_cases hin : start ≤ k ∧ k < start + data.size
  · rw [if_neg fun hin' => hk ⟨hin, hin'⟩, if_pos hin, if_pos hin]
  · rw [if_neg hin, if_neg hin]

end Bytes

/-! ### Buffers -/

namespace Heap

/-- Heaps with the same memories and the same buffers are the same. -/
theorem ext_bytes {h h' : Heap} (hm : h.memories = h'.memories)
    (hs : h.buffers.size = h'.buffers.size) (hb : ∀ k, h.bytes k = h'.bytes k) : h = h' := by
  cases h with
  | mk buffers memories =>
    cases h' with
    | mk buffers' memories' =>
      obtain rfl : memories = memories' := hm
      have : buffers = buffers' := by
        apply Array.ext hs
        intro k hk hk'
        have := hb k
        simpa [bytes, hk, hk'] using this
      rw [this]

@[simp] theorem memories_writeBuffer (h : Heap) (k start : Nat) (data : Bytes) :
    (h.writeBuffer k start data).memories = h.memories := rfl

@[simp] theorem size_buffers_writeBuffer (h : Heap) (k start : Nat) (data : Bytes) :
    (h.writeBuffer k start data).buffers.size = h.buffers.size := by
  simp [writeBuffer]

section writes
variable {h : Heap} {k start start' : Nat} {data data' : Bytes}

theorem writeBuffer_slice {n : Nat} (hin : start + n ≤ (h.bytes k).size) :
    h.writeBuffer k start ((h.bytes k).slice start n) = h := by
  refine ext_bytes (by simp) (by simp) fun j => ?_
  rw [bytes_writeBuffer]
  split_ifs with hj
  · rw [Bytes.overwrite_slice hin, hj]
  · rfl

theorem writeBuffer_writeBuffer (hin : start + data.size ≤ (h.bytes k).size)
    (hsize : data'.size = data.size) :
    (h.writeBuffer k start data).writeBuffer k start data' = h.writeBuffer k start data' := by
  refine ext_bytes (by simp) (by simp) fun j => ?_
  simp only [bytes_writeBuffer]
  split_ifs with hj
  · exact Bytes.overwrite_overwrite hin hsize
  · rfl

theorem writeBuffer_comm (hin : start + data.size ≤ (h.bytes k).size)
    (hin' : start' + data'.size ≤ (h.bytes k).size)
    (hseparate : Bytes.Separate start data.size start' data'.size) :
    (h.writeBuffer k start data).writeBuffer k start' data'
      = (h.writeBuffer k start' data').writeBuffer k start data := by
  refine ext_bytes (by simp) (by simp) fun j => ?_
  simp only [bytes_writeBuffer]
  split_ifs with hj
  · exact Bytes.overwrite_comm hin hin' hseparate
  · rfl

end writes

end Heap

/-! ### Ends of spans -/

namespace Window

/-- The sum of two 32-bit numbers does not wrap around in 64 bits. -/
theorem toNat_last (address length : UInt32) :
    (address.toUInt64 + length.toUInt64).toNat = address.toNat + length.toNat := by
  have ha := address.toNat_lt
  have hl := length.toNat_lt
  rw [UInt64.toNat_add, UInt32.toNat_toUInt64, UInt32.toNat_toUInt64]
  omega

/-- A span lies in a window just when its end, as a number, does.  Its end fits into 32 bits then. -/
theorem span?_cases {w : Window} (hw : w.length < UInt32.size) (address length : UInt32) :
    (address.toNat + length.toNat ≤ w.length ∧ ∃ last, w.span? address length = some last ∧
      last.toNat = address.toNat + length.toNat) ∨
    (w.length < address.toNat + length.toNat ∧ w.span? address length = none) := by
  have hsum := toNat_last address length
  unfold span?
  simp only [hsum]
  split_ifs with hin
  · refine .inl ⟨hin, _, rfl, ?_⟩
    rw [UInt64.toNat_toUInt32, hsum]
    exact Nat.mod_eq_of_lt (Nat.lt_of_le_of_lt hin hw)
  · exact .inr ⟨by omega, rfl⟩

theorem cut_of_span? {w : Window} {address length last : UInt32}
    (hlast : last.toNat = address.toNat + length.toNat) :
    w.cut address last last = ⟨w.buffer, address.toNat, length.toNat, length.toNat⟩ := by
  have hle : address ≤ last := UInt32.le_iff_toNat_le.mpr (by omega)
  simp only [cut, UInt32.toNat_sub_of_le _ _ hle, hlast, Nat.add_sub_cancel_left]

end Window

namespace View

/-! ### Lending a span out -/

theorem length_window_lt (m : Memory) (h : Heap) : (m.window h).length < UInt32.size :=
  Nat.mod_lt _ (by decide)

/-- The bytes that are read are those of the slice that is lent. -/
theorem read_eq_lend {v : View} {h : Heap} (hc : v.Coherent h) (address length : UInt32) :
    v.read h address length
      = ((v.lend h address length).1, (v.lend h address length).2.map (·.bytes h)) := by
  unfold read lend
  cases hrev : v.revalidate h with
  | error f => rfl
  | ok p =>
      obtain ⟨v', w⟩ := p
      obtain ⟨j, m, -, -, rfl, -⟩ := window_of_revalidate hc hrev
      obtain ⟨hin, last, hspan, hlast⟩ | ⟨hout, hspan⟩ :=
        Window.span?_cases (length_window_lt m h) address length
      · simp only [hspan, if_pos hin, Window.cut_of_span? hlast]
        rfl
      · simp only [hspan, if_neg (Nat.not_le.mpr hout)]
        rfl

/-! ### Views that face a memory -/

/-- A coherent view of a memory that can be read. -/
structure Faces (v : View) (h : Heap) (i : Nat) (m : Memory) : Prop where
  coherent : v.Coherent h
  binding : v.binding = .memory i
  memory : h.memories[i]? = some m
  readable : m.readable = true

namespace Faces
variable {v : View} {h : Heap} {i : Nat} {m : Memory} (hv : v.Faces h i m)
include hv

theorem revalidate : v.revalidate h = .ok ({ v with window := some (m.window h) }, m.window h) := by
  obtain ⟨v', w, hrev⟩ := revalidate_of_readable hv.binding hv.memory hv.readable
  obtain ⟨j, n, hb, hn, rfl, rfl⟩ := window_of_revalidate hv.coherent hrev
  obtain rfl : i = j := by simpa [hv.binding] using hb
  obtain rfl : m = n := by simpa [hv.memory] using hn
  exact hrev

theorem renewed : v.renewed h = { v with window := some (m.window h) } := by
  simp only [View.renewed, hv.revalidate]

/-- A span is lent out when it lies in the memory, and nothing more than the span. -/
theorem lend (address length : UInt32) :
    (v.lend h address length).2 =
      if address.toNat + length.toNat ≤ (m.window h).length then
        .ok ⟨m.buffer, address.toNat, length.toNat, length.toNat⟩
      else .error (.memoryAccess .read address.toNat length.toNat) := by
  simp only [View.lend, hv.revalidate]
  obtain ⟨hin, last, hspan, hlast⟩ | ⟨hout, hspan⟩ :=
    Window.span?_cases (length_window_lt m h) address length
  · simp only [hspan, if_pos hin, Window.cut_of_span? hlast]
    rfl
  · simp only [hspan, if_neg (Nat.not_le.mpr hout)]

theorem read (address length : UInt32) :
    (v.read h address length).2 =
      if address.toNat + length.toNat ≤ (m.window h).length then
        .ok ((h.bytes m.buffer).slice address.toNat length.toNat)
      else .error (.memoryAccess .read address.toNat length.toNat) :=
  read_readable hv.coherent hv.binding hv.memory hv.readable address length

theorem write_snd (address : UInt32) (data : Bytes) :
    (v.write h address data).2 =
      if address.toNat + data.size % UInt32.size ≤ (m.window h).length then
        (h.writeBuffer m.buffer address.toNat (copied data), .ok ())
      else (h, .error (.memoryAccess .write address.toNat (data.size % UInt32.size))) :=
  write_readable hv.coherent hv.binding hv.memory hv.readable address data

/-- Writing into the live buffer leaves the view where it is. -/
theorem writeBuffer (k start : Nat) (data : Bytes) :
    (v.renewed h).Faces (h.writeBuffer k start data) i m where
  coherent := hv.coherent.renewed.mono (Heap.extends_writeBuffer h k start data)
  binding := by rw [hv.renewed]; exact hv.binding
  memory := hv.memory
  readable := hv.readable

theorem write (address : UInt32) (data : Bytes) :
    (v.write h address data).1.Faces (v.write h address data).2.1 i m := by
  rw [view_write, hv.write_snd]
  split_ifs
  · exact hv.writeBuffer _ _ _
  · exact ⟨hv.coherent.renewed, by rw [hv.renewed]; exact hv.binding, hv.memory, hv.readable⟩

end Faces

theorem size_bytes_write {v : View} {h : Heap} (hc : v.Coherent h) (address : UInt32) (data : Bytes)
    (k : Nat) : ((v.write h address data).2.1.bytes k).size = (h.bytes k).size := by
  obtain ⟨hsame, -⟩ | ⟨j, n, -, -, -, hwrite⟩ := write_cases hc address data
  · rw [hsame]
  · rw [hwrite]
    exact Heap.size_bytes_writeBuffer h _ _ _ _

theorem copied_of_lt {data : Bytes} (h : data.size < UInt32.size) : copied data = data := by
  rw [copied, Nat.mod_eq_of_lt h]
  exact Array.extract_eq_self_of_le (Nat.le_refl _)

/-! ### Memories and data of less than `2 ^ 32` bytes -/

theorem length_window {h : Heap} {m : Memory} (hsize : (h.bytes m.buffer).size < UInt32.size) :
    (m.window h).length = (h.bytes m.buffer).size := Nat.mod_eq_of_lt hsize

/-- Two writes leave the view with the window that it has taken before the first one. -/
theorem Faces.view_write_write {v : View} {h : Heap} {i : Nat} {m : Memory} (hv : v.Faces h i m)
    (address : UInt32) (data : Bytes) (address' : UInt32) (data' : Bytes) :
    let w := v.write h address data
    (w.1.write w.2.1 address' data').1 = { v with window := some (m.window h) } := by
  intro w
  have hw : w.1 = { v with window := some (m.window h) } := by rw [view_write, hv.renewed]
  have hkept : m.window w.2.1 = m.window h := by
    simp only [Memory.window, w, size_bytes_write hv.coherent]
  rw [view_write, (hv.write address data).renewed, hkept, hw]

namespace Faces
variable {v : View} {h : Heap} {i : Nat} {m : Memory} (hv : v.Faces h i m)
  (hsize : (h.bytes m.buffer).size < UInt32.size)
include hv hsize

theorem read_of_lt (address length : UInt32) :
    (v.read h address length).2 =
      if address.toNat + length.toNat ≤ (h.bytes m.buffer).size then
        .ok ((h.bytes m.buffer).slice address.toNat length.toNat)
      else .error (.memoryAccess .read address.toNat length.toNat) := by
  rw [hv.read, length_window hsize]

theorem lend_of_lt (address length : UInt32) :
    (v.lend h address length).2 =
      if address.toNat + length.toNat ≤ (h.bytes m.buffer).size then
        .ok ⟨m.buffer, address.toNat, length.toNat, length.toNat⟩
      else .error (.memoryAccess .read address.toNat length.toNat) := by
  rw [hv.lend, length_window hsize]

theorem write_of_lt (address : UInt32) {data : Bytes} (hdata : data.size < UInt32.size) :
    (v.write h address data).2 =
      if address.toNat + data.size ≤ (h.bytes m.buffer).size then
        (h.writeBuffer m.buffer address.toNat data, .ok ())
      else (h, .error (.memoryAccess .write address.toNat data.size)) := by
  rw [hv.write_snd, length_window hsize, Nat.mod_eq_of_lt hdata, copied_of_lt hdata]

theorem read_eq_ok_iff {address length : UInt32} {b : Bytes} :
    (v.read h address length).2 = .ok b ↔ address.toNat + length.toNat ≤ (h.bytes m.buffer).size ∧
      b = (h.bytes m.buffer).slice address.toNat length.toNat := by
  rw [hv.read_of_lt hsize]
  split_ifs with hin <;> simp [hin, eq_comm]

theorem read_eq_error {address length : UInt32} {f : Fault}
    (hf : (v.read h address length).2 = .error f) :
    f = .memoryAccess .read address.toNat length.toNat := by
  rw [hv.read_of_lt hsize] at hf
  split_ifs at hf
  cases hf
  rfl

theorem write_ok_iff {address : UInt32} {data : Bytes} (hdata : data.size < UInt32.size) :
    (v.write h address data).2.2 = .ok () ↔ address.toNat + data.size ≤ (h.bytes m.buffer).size := by
  rw [hv.write_of_lt hsize address hdata]
  split_ifs with hin <;> simp [hin]

theorem write_of_le {address : UInt32} {data : Bytes} (hdata : data.size < UInt32.size)
    (hin : address.toNat + data.size ≤ (h.bytes m.buffer).size) :
    (v.write h address data).2 = (h.writeBuffer m.buffer address.toNat data, .ok ()) := by
  rw [hv.write_of_lt hsize address hdata, if_pos hin]

/-- A write that fails tells where and changes nothing. -/
theorem write_error {address : UInt32} {data : Bytes} (hdata : data.size < UInt32.size) {f : Fault}
    (hf : (v.write h address data).2.2 = .error f) :
    f = .memoryAccess .write address.toNat data.size ∧ (v.write h address data).2.1 = h := by
  rw [hv.write_of_lt hsize address hdata] at hf ⊢
  split_ifs at hf ⊢
  cases hf
  exact ⟨rfl, rfl⟩

/-- A second write is judged by the size before the first one. -/
theorem write_write (address : UInt32) (data : Bytes) (address' : UInt32) {data' : Bytes}
    (hdata' : data'.size < UInt32.size) :
    let w := v.write h address data
    (w.1.write w.2.1 address' data').2 =
      if address'.toNat + data'.size ≤ (h.bytes m.buffer).size then
        (w.2.1.writeBuffer m.buffer address'.toNat data', .ok ())
      else (w.2.1, .error (.memoryAccess .write address'.toNat data'.size)) := by
  intro w
  have hkept := size_bytes_write hv.coherent address data m.buffer
  rw [(hv.write address data).write_of_lt (by rwa [hkept]) address' hdata', hkept]

/-- What was written is read back. -/
theorem read_write {address : UInt32} {data : Bytes} (hdata : data.size < UInt32.size)
    (hin : address.toNat + data.size ≤ (h.bytes m.buffer).size) :
    let w := v.write h address data
    (w.1.read w.2.1 address (UInt32.ofNat data.size)).2 = .ok data := by
  intro w
  have hkept := size_bytes_write hv.coherent address data m.buffer
  have hlength : (UInt32.ofNat data.size).toNat = data.size := UInt32.toNat_ofNat_of_lt' hdata
  rw [(hv.write address data).read_of_lt (by rwa [hkept]), hkept, hlength, if_pos hin,
    hv.write_of_le hsize hdata hin, Heap.bytes_writeBuffer, if_pos rfl, Bytes.slice_overwrite hin]

/-- Writing what was read changes nothing. -/
theorem write_read {address length : UInt32}
    (hin : address.toNat + length.toNat ≤ (h.bytes m.buffer).size) :
    (v.write h address ((h.bytes m.buffer).slice address.toNat length.toNat)).2 = (h, .ok ()) := by
  have hlength := Bytes.size_slice hin
  rw [hv.write_of_le hsize (by rw [hlength]; exact length.toNat_lt) (by rwa [hlength]),
    Heap.writeBuffer_slice hin]

/-- Of two writes to one span the later one stays. -/
theorem write_again {address : UInt32} {data more : Bytes} (hdata : data.size < UInt32.size)
    (hin : address.toNat + data.size ≤ (h.bytes m.buffer).size) (hmore : more.size = data.size) :
    let w := v.write h address data
    (w.1.write w.2.1 address more).2 = (v.write h address more).2 := by
  intro w
  have hw : w.2 = _ := hv.write_of_le hsize hdata hin
  have hagain : (w.1.write w.2.1 address more).2 = _ :=
    hv.write_write hsize address data address (by rwa [hmore])
  rw [hagain, hmore, if_pos hin, hw, Heap.writeBuffer_writeBuffer hin hmore,
    hv.write_of_le hsize (by rwa [hmore]) (by rwa [hmore])]

/-- Writes to separate spans can be made in any order. -/
theorem write_comm {address address' : UInt32} {data data' : Bytes} (hdata : data.size < UInt32.size)
    (hdata' : data'.size < UInt32.size)
    (hseparate : Bytes.Separate address.toNat data.size address'.toNat data'.size) :
    let w := v.write h address data
    let w' := v.write h address' data'
    let after := w.1.write w.2.1 address' data'
    let after' := w'.1.write w'.2.1 address data
    after.1 = after'.1 ∧ after.2.1 = after'.2.1 ∧ after.2.2 = w'.2.2 ∧ after'.2.2 = w.2.2 := by
  intro w w' after after'
  refine ⟨?_, ?_⟩
  · exact (hv.view_write_write address data address' data').trans
      (hv.view_write_write address' data' address data).symm
  have hw : w.2 = _ := hv.write_of_lt hsize address hdata
  have hw' : w'.2 = _ := hv.write_of_lt hsize address' hdata'
  have hafter : after.2 = _ := hv.write_write hsize address data address' hdata'
  have hafter' : after'.2 = _ := hv.write_write hsize address' data' address hdata
  rw [hafter, hafter', hw, hw']
  by_cases hin : address.toNat + data.size ≤ (h.bytes m.buffer).size <;>
    by_cases hin' : address'.toNat + data'.size ≤ (h.bytes m.buffer).size <;>
    simp only [hin, hin', if_true, if_false, and_self, and_true]
  exact Heap.writeBuffer_comm hin hin' hseparate

end Faces

/-- **Spans obey the laws of a lens**, for a view that faces a memory of less than `2 ^ 32` bytes.

* A span is read when it lies in the memory, and its bytes are those of the slice that is lent, which
  cannot be extended.  Writing them back changes nothing.
* Data are written when they fit into the memory from their address.  They are read back then, nothing
  outside them and no other buffer changes, and of two writes to one span the later one stays.
* Writes to separate spans can be made in any order, also if one of them fails.
* What fails tells the operation, the address and the length, and memory stays as it was. -/
theorem spans_obey_lens_laws {v : View} {h : Heap} {i : Nat} {m : Memory} (hv : v.Faces h i m)
    (hsize : (h.bytes m.buffer).size < UInt32.size) :
    let live := h.bytes m.buffer
    (∀ address length : UInt32,
      v.read h address length
        = ((v.lend h address length).1, (v.lend h address length).2.map (·.bytes h)) ∧
      ((∃ b, (v.read h address length).2 = .ok b) ↔ address.toNat + length.toNat ≤ live.size) ∧
      (∀ b, (v.read h address length).2 = .ok b →
        (v.lend h address length).2 = .ok ⟨m.buffer, address.toNat, length.toNat, length.toNat⟩ ∧
        b.size = length.toNat ∧ (∀ k < length.toNat, b[k]? = live[address.toNat + k]?) ∧
        (v.write h address b).2 = (h, .ok ())) ∧
      (∀ f, (v.read h address length).2 = .error f →
        f = .memoryAccess .read address.toNat length.toNat)) ∧
    (∀ (address : UInt32) (data : Bytes), data.size < UInt32.size →
      let w := v.write h address data
      (w.2.2 = .ok () ↔ address.toNat + data.size ≤ live.size) ∧
      (w.2.2 = .ok () →
        (w.1.read w.2.1 address (UInt32.ofNat data.size)).2 = .ok data ∧
        live.Written address.toNat data (w.2.1.bytes m.buffer) ∧
        (∀ k, k ≠ m.buffer → w.2.1.bytes k = h.bytes k) ∧
        ∀ more : Bytes, more.size = data.size →
          (w.1.write w.2.1 address more).2 = (v.write h address more).2) ∧
      (∀ f, w.2.2 = .error f → f = .memoryAccess .write address.toNat data.size ∧ w.2.1 = h)) ∧
    (∀ (address address' : UInt32) (data data' : Bytes), data.size < UInt32.size →
      data'.size < UInt32.size → Bytes.Separate address.toNat data.size address'.toNat data'.size →
      let w := v.write h address data
      let w' := v.write h address' data'
      let after := w.1.write w.2.1 address' data'
      let after' := w'.1.write w'.2.1 address data
      after.1 = after'.1 ∧ after.2.1 = after'.2.1 ∧ after.2.2 = w'.2.2 ∧ after'.2.2 = w.2.2) := by
  intro live
  refine ⟨?_, ?_, ?_⟩
  · intro address length
    refine ⟨read_eq_lend hv.coherent address length, ?_, ?_, fun f => hv.read_eq_error hsize⟩
    · simp only [hv.read_eq_ok_iff hsize, exists_and_left, exists_eq, and_true]
      exact Iff.rfl
    · intro b hb
      obtain ⟨hin, rfl⟩ := (hv.read_eq_ok_iff hsize).mp hb
      refine ⟨?_, Bytes.size_slice hin, ?_, hv.write_read hsize hin⟩
      · rw [hv.lend_of_lt hsize, if_pos hin]
      · intro k hk
        rw [Bytes.getElem?_slice _ _ _ _ hin, if_pos hk]
  · intro address data hdata w
    refine ⟨hv.write_ok_iff hsize hdata, ?_, fun f => hv.write_error hsize hdata⟩
    intro hok
    have hin := (hv.write_ok_iff hsize hdata).mp hok
    have hheap : w.2.1 = h.writeBuffer m.buffer address.toNat data :=
      congrArg Prod.fst (hv.write_of_le hsize hdata hin)
    refine ⟨hv.read_write hsize hdata hin, ?_, ?_, fun more => hv.write_again hsize hdata hin⟩
    · rw [hheap, Heap.bytes_writeBuffer, if_pos rfl]
      exact Bytes.written_overwrite hin
    · intro k hk
      rw [hheap, Heap.bytes_writeBuffer, if_neg hk]
  · intro address address' data data' hdata hdata' hseparate
    exact hv.write_comm hsize hdata hdata' hseparate

/-- The view still holds the window of a memory of two bytes, which has four now.  The empty span at
the end is read, a span whose end wraps around is not, and two writes at the end can be exchanged. -/
theorem empty_span_at_end_and_wrapping_span :
    let h : Heap := { buffers := #[#[1, 2], #[1, 2, 3, 4]], memories := #[{ buffer := 1 }] }
    let v : View := { binding := .memory 0, window := some ⟨0, 2⟩ }
    v.Faces h 0 { buffer := 1 } ∧
    (∃ b, (v.read h 4 0).2 = .ok b) ∧ (¬ ∃ b, (v.read h 0xFFFFFFFF 2).2 = .ok b) ∧
    (v.write h 2 #[7, 8]).2.2 = .ok () ∧ (v.write h 3 #[7, 8]).2.1 = h ∧
    ((v.write h 2 #[7]).1.write (v.write h 2 #[7]).2.1 3 #[8]).2.1
      = ((v.write h 3 #[8]).1.write (v.write h 3 #[8]).2.1 2 #[7]).2.1 := by
  intro h v
  have hv : v.Faces h 0 { buffer := 1 } := by
    refine ⟨?_, rfl, rfl, rfl⟩
    rintro w ⟨⟩
    exact ⟨0, { buffer := 1 }, rfl, rfl, .inr (by decide)⟩
  obtain ⟨hread, hwrite, hcomm⟩ := spans_obey_lens_laws hv (by decide)
  refine ⟨hv, (hread 4 0).2.1.mpr (by decide), ?_, (hwrite 2 #[7, 8] (by decide)).1.mpr (by decide),
    ?_, ?_⟩
  · rw [(hread 0xFFFFFFFF 2).2.1]
    decide
  · exact ((hwrite 3 #[7, 8] (by decide)).2.2 (.memoryAccess .write 3 2) rfl).2
  · refine (hcomm 2 3 #[7] #[8] (by decide) (by decide) ?_).2.1
    intro k hk
    simp at hk
    omega

end View

end GuestHost
