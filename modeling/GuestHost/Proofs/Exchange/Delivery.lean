import GuestHost.Proofs.Exchange.History
import GuestHost.Proofs.Memory.Spans

/-! # What an import delivers

A file that the user chooses may have any length.  A guest counts in 32 bits, and so does the copy
into its memory: it is judged by the length of the file in 32 bits and copies as many bytes.

* **One equation** (`Exchange.consume_facing`) tells an import through a view that faces a memory.  It
  either clears the slot and copies, or changes nothing.
* **Delivery** (`Exchange.Delivered`).  Every byte of the file is in memory, from the address on.  A
  copy delivers a file that is shorter than `2 ^ 32` bytes (`delivered_of_written`), and no memory
  of 32-bit size holds a longer one (`Delivered.size_lt`).

`delivered_iff_short` puts this together: an import that succeeds delivers the whole file, and tells
how many bytes it copied, exactly when the file is shorter than `2 ^ 32` bytes.  A longer one is
imported as well and lost (`file_beyond_addresses_lost`). -/

namespace GuestHost
namespace Exchange

/-- Every byte of a file is in memory, from an address on. -/
def Delivered (live : Bytes) (dest : Nat) (file : Bytes) : Prop :=
  ∀ k < file.size, live[dest + k]? = file[k]?

theorem delivered_of_written {live live' file : Bytes} {dest : Nat}
    (hw : live.Written dest (View.copied file) live') (hfile : file.size < UInt32.size) :
    Delivered live' dest file := by
  rw [View.copied_of_lt hfile] at hw
  intro k hk
  rw [hw.bytes, if_pos (by omega), Nat.add_sub_cancel_left]

theorem Delivered.size_lt {live file : Bytes} {dest : Nat} (hd : Delivered live dest file)
    (hlive : live.size < UInt32.size) : file.size < UInt32.size := by
  by_contra hlong
  have hlast : file.size - 1 < file.size := Nat.sub_lt (by simp at hlong; omega) Nat.one_pos
  have hout : live[dest + (file.size - 1)]? = none := Array.getElem?_eq_none (by omega)
  rw [hd _ hlast, Array.getElem?_eq_getElem hlast] at hout
  cases hout

section facing
variable {x : Exchange} {p : Pending} {v : View} {h : Heap} {i : Nat} {m : Memory} {dest : UInt32}

/-- Consuming through a view that faces a memory. -/
theorem consume_facing (hp : x.pending = some p) (hv : v.Faces h i m) (dest : UInt32) :
    (dest.toNat + p.data.size % UInt32.size ≤ (m.window h).length ∧
      x.consume v h dest = ⟨{ x with pending := none }, v.renewed h,
        h.writeBuffer m.buffer dest.toNat (View.copied p.data), .ok p.data.size,
        [consumedRecord p dest]⟩) ∨
    ((m.window h).length < dest.toNat + p.data.size % UInt32.size ∧
      x.consume v h dest = ⟨x, v.renewed h, h,
        .error (.memoryAccess .write dest.toNat (p.data.size % UInt32.size)), []⟩) := by
  have hw : v.write h dest p.data = (v.renewed h, (v.write h dest p.data).2) :=
    Prod.ext (View.view_write v h dest p.data) rfl
  rw [hv.write_snd] at hw
  by_cases hin : dest.toNat + p.data.size % UInt32.size ≤ (m.window h).length
  · rw [if_pos hin] at hw
    refine .inl ⟨hin, ?_⟩
    simp only [consume, hp, hw]
    rfl
  · rw [if_neg hin] at hw
    refine .inr ⟨Nat.lt_of_not_le hin, ?_⟩
    simp only [consume, hp, hw]

theorem consume_ok_iff (hp : x.pending = some p) (hv : v.Faces h i m) {count : Nat} :
    (x.consume v h dest).result = .ok count ↔
      dest.toNat + p.data.size % UInt32.size ≤ (m.window h).length ∧ count = p.data.size := by
  obtain ⟨hin, hafter⟩ | ⟨hout, hafter⟩ := consume_facing hp hv dest
  · simp [hafter, hin, eq_comm]
  · simp [hafter, Nat.not_le.mpr hout]

/-- What an import leaves behind when the length in 32 bits fits. -/
theorem consume_of_le (hp : x.pending = some p) (hv : v.Faces h i m)
    (hin : dest.toNat + p.data.size % UInt32.size ≤ (m.window h).length) :
    (x.consume v h dest).exchange = { x with pending := none } ∧
      (x.consume v h dest).heap = h.writeBuffer m.buffer dest.toNat (View.copied p.data) := by
  obtain ⟨-, hafter⟩ | ⟨hout, -⟩ := consume_facing hp hv dest
  · rw [hafter]
    exact ⟨rfl, rfl⟩
  · exact absurd hin (Nat.not_le.mpr hout)

/-- An import that fails tells where and changes nothing. -/
theorem consume_error (hp : x.pending = some p) (hv : v.Faces h i m) {f : Fault}
    (hf : (x.consume v h dest).result = .error f) :
    f = .memoryAccess .write dest.toNat (p.data.size % UInt32.size) ∧
      (x.consume v h dest).exchange = x ∧ (x.consume v h dest).heap = h := by
  obtain ⟨-, hafter⟩ | ⟨-, hafter⟩ := consume_facing hp hv dest <;> rw [hafter] at hf ⊢ <;> cases hf
  exact ⟨rfl, rfl, rfl⟩

/-- The bytes that count in 32 bits are written into the live buffer. -/
theorem written_consume (hp : x.pending = some p) (hv : v.Faces h i m)
    (hin : dest.toNat + p.data.size % UInt32.size ≤ (m.window h).length) :
    (h.bytes m.buffer).Written dest.toNat (View.copied p.data)
      ((x.consume v h dest).heap.bytes m.buffer) := by
  rw [(consume_of_le hp hv hin).2, Heap.bytes_writeBuffer, if_pos rfl]
  apply Bytes.written_overwrite
  rw [View.size_copied]
  exact Nat.le_trans hin (Nat.mod_le _ _)

/-- What does not fit is refused, if its length counts in 32 bits. -/
theorem consume_refused (hp : x.pending = some p) (hv : v.Faces h i m)
    (hshort : p.data.size < UInt32.size)
    (hlong : (h.bytes m.buffer).size < dest.toNat + p.data.size) :
    ∃ f, (x.consume v h dest).result = .error f := by
  obtain ⟨hin, -⟩ | ⟨-, hafter⟩ := consume_facing hp hv dest
  · have hlive : (m.window h).length ≤ (h.bytes m.buffer).size := Nat.mod_le _ _
    rw [Nat.mod_eq_of_lt hshort] at hin
    omega
  · exact ⟨_, congrArg Consumption.result hafter⟩

/-- **An import that succeeds delivers the whole file**, and tells how many bytes it copied, exactly
when the file is shorter than `2 ^ 32` bytes, for every file and every memory that can be read.  It
succeeds when the length in 32 bits fits, copies as many bytes, changes nothing else in memory and
clears the slot.  Otherwise memory and the pending file stay.  A file of less than `2 ^ 32` bytes
that does not fit is refused. -/
theorem delivered_iff_short (hp : x.pending = some p) (hv : v.Faces h i m) (dest : UInt32) :
    let file := p.data
    let n := file.size % UInt32.size
    let live := h.bytes m.buffer
    let after := x.consume v h dest
    let live' := after.heap.bytes m.buffer
    ((∃ count, after.result = .ok count) ↔ dest.toNat + n ≤ live.size % UInt32.size) ∧
    (∀ count, after.result = .ok count →
      ((Delivered live' dest.toNat file ∧ count = n) ↔ file.size < UInt32.size) ∧
      (live.size < UInt32.size → (Delivered live' dest.toNat file ↔ file.size < UInt32.size)) ∧
      live.Written dest.toNat (file.extract 0 n) live' ∧
      (∀ k, k ≠ m.buffer → after.heap.bytes k = h.bytes k) ∧
      count = file.size ∧ after.exchange = { x with pending := none }) ∧
    (∀ f, after.result = .error f →
      f = .memoryAccess .write dest.toNat n ∧ after.exchange = x ∧ after.heap = h) ∧
    (file.size < UInt32.size → live.size < dest.toNat + file.size → ∃ f, after.result = .error f) := by
  intro file n live after live'
  have hok (count : Nat) : after.result = .ok count ↔ _ := consume_ok_iff hp hv
  refine ⟨?_, ?_, fun f => consume_error hp hv, consume_refused hp hv⟩
  · simp only [hok, exists_and_left, exists_eq, and_true]
    exact Iff.rfl
  · intro count hcount
    obtain ⟨hin, rfl⟩ := (hok count).mp hcount
    have hwritten : live.Written dest.toNat (View.copied file) live' := written_consume hp hv hin
    obtain ⟨hexchange, hheap⟩ := consume_of_le hp hv hin
    refine ⟨⟨?_, ?_⟩, ?_, hwritten, ?_, rfl, hexchange⟩
    · rintro ⟨-, hn⟩
      rw [hn]
      exact Nat.mod_lt _ (by decide)
    · intro hshort
      exact ⟨delivered_of_written hwritten hshort, (Nat.mod_eq_of_lt hshort).symm⟩
    · intro hlive
      exact ⟨fun hd => hd.size_lt (by rwa [hwritten.size]), delivered_of_written hwritten⟩
    · intro k hk
      rw [hheap, Heap.bytes_writeBuffer, if_neg hk]

end facing

/-- Three bytes are delivered at the end of a memory of five, and refused one place further on. -/
theorem three_bytes_delivered_at_the_end :
    let x := (new {}).after [.complete ⟨"a.l3", #[7, 8, 9]⟩]
    let h : Heap := { buffers := #[#[0, 0, 0, 0, 0]], memories := #[{ buffer := 0 }] }
    let v : View := { binding := .memory 0 }
    Delivered ((x.consume v h 2).heap.bytes 0) 2 #[7, 8, 9] ∧
      ∃ f, (x.consume v h 3).result = .error f := by
  intro x h v
  have hp : x.pending = some ⟨"a.l3", #[7, 8, 9], .primary⟩ := by decide
  have hv : v.Faces h 0 { buffer := 0 } := ⟨nofun, rfl, rfl, rfl⟩
  have hat := delivered_iff_short hp hv
  exact ⟨(((hat 2).2.1 3 rfl).2.1 (by decide)).mpr (by decide), (hat 3).2.2.2 (by decide) (by decide)⟩

/-- A file of `2 ^ 32` bytes is imported into a memory of two bytes.  All of it counts as copied, no
byte of it is in memory, and the exchange has forgotten it. -/
theorem file_beyond_addresses_lost :
    let file : Bytes := Array.replicate UInt32.size 7
    let x := (new {}).after [.complete ⟨"a.l3", file⟩]
    let h : Heap := { buffers := #[#[0, 0]], memories := #[{ buffer := 0 }] }
    let v : View := { binding := .memory 0 }
    let after := x.consume v h 0
    x.stage = .ready ∧ v.Faces h 0 { buffer := 0 } ∧ after.result = .ok file.size ∧
      file.size = UInt32.size ∧ after.heap = h ∧ ¬ Delivered (after.heap.bytes 0) 0 file ∧
      after.exchange.pending = none := by
  intro file
  have hsize : file.size = UInt32.size := Array.size_replicate
  -- Only the length of the file is used, and its bytes are not to be computed.
  clear_value file
  intro x h v after
  have hp : x.pending = some ⟨"a.l3", file, x.classifier.classify "a.l3"⟩ := rfl
  have hv : v.Faces h 0 { buffer := 0 } := ⟨nofun, rfl, rfl, rfl⟩
  have hcopied : View.copied file = (h.bytes 0).slice 0 0 := by
    rw [View.copied, hsize]
    simp [Bytes.slice]
  obtain ⟨-, hafter⟩ | ⟨hout, -⟩ := consume_facing hp hv 0
  · have hheap : after.heap = h := by
      simp only [after, hafter, hcopied]
      exact Heap.writeBuffer_slice (by decide)
    refine ⟨rfl, hv, congrArg Consumption.result hafter, hsize, hheap, ?_,
      congrArg (fun c => c.exchange.pending) hafter⟩
    rw [hheap]
    intro hd
    have := hd.size_lt (by decide)
    omega
  · simp only [hsize] at hout
    exact absurd hout (by decide)

-- A window over an abandoned buffer as long as the live one is taken for it, and takes the file.
example :
    let x := (new {}).after [.complete ⟨"a.l3", #[7]⟩]
    let h : Heap := { buffers := #[#[0, 0], #[0, 0]], memories := #[{ buffer := 1 }] }
    let after := x.consume { binding := .memory 0, window := some ⟨0, 2⟩ } h 0
    after.result = .ok 1 ∧ after.heap.live? 0 = some #[0, 0] :=
  ⟨rfl, rfl⟩

end Exchange
end GuestHost
