import GuestHost.MemoryView
import GuestHost.Proofs.Memory.Heap

/-! # The view shows the live memory

A view keeps a window over a buffer and tells by the length alone whether the window is stale.  It
is bound, read, written and revalidated, and in between memories change behind its back.

* **Coherence** (`View.Coherent`).  A window that a view holds belongs to the memory it is bound to.
  Either it is the window of the live buffer, or it is shorter than the memory is now.  In the second
  case its length gives it away, because memories only grow and never beyond `2 ^ 32` bytes.
* Every access renews the window first (`View.renewed`), and a coherent view that can be renewed
  holds the window of the live buffer (`window_of_revalidate`).
* **Runs** (`View.act`, `View.run`).  Whatever is done to the view and to memories, the view stays
  coherent (`Sound.run`).

`view_shows_live_memory` says what this means for reading and writing. -/

namespace GuestHost

/-- The window of a memory's live buffer: as long as the memory says it is, in 32 bits. -/
def Memory.window (m : Memory) (h : Heap) : Window := ⟨m.buffer, (h.bytes m.buffer).size % UInt32.size⟩

theorem Heap.live?_eq {h : Heap} {i : Nat} {m : Memory} (hm : h.memories[i]? = some m) :
    h.live? i = some (h.bytes m.buffer) := by
  simp [Heap.live?, hm]

namespace View

/-! ### Coherence -/

/-- The window, if there is one, is that of the bound memory's live buffer, or it is too short to be
taken for it. -/
def Coherent (v : View) (h : Heap) : Prop :=
  ∀ w, v.window = some w → ∃ i m, v.binding = .memory i ∧ h.memories[i]? = some m ∧
    (w = m.window h ∨
      (w.length < (h.bytes m.buffer).size ∧ (h.bytes m.buffer).size ≤ UInt32.size))

theorem not_fresh_of_lt {w : Window} {size : Nat} (hlt : w.length < size) (hle : size ≤ UInt32.size) :
    ¬ Fresh w (size % UInt32.size) := by
  rintro ⟨hne, heq⟩
  rw [Nat.mod_eq_of_lt (Nat.lt_of_lt_of_le hlt hle)] at heq
  rcases Nat.lt_or_eq_of_le hle with hs | hs
  · rw [Nat.mod_eq_of_lt hs] at heq
    omega
  · rw [hs, Nat.mod_self] at heq
    omega

/-- Memories that grow behind a view's back leave it coherent. -/
theorem Coherent.mono {v : View} {h h' : Heap} (hc : v.Coherent h) (hh : h.Extends h') :
    v.Coherent h' := by
  intro w hw
  obtain ⟨i, m, hb, hm, hcase⟩ := hc w hw
  obtain ⟨m', hm', hsame | ⟨hlt, hle⟩⟩ := hh i m hm
  · refine ⟨i, m', hb, hm', ?_⟩
    rcases hcase with rfl | hshort
    · left
      simp only [Memory.window]
      rw [hsame.2, hsame.1]
    · right
      rw [hsame.2]
      exact hshort
  · refine ⟨i, m', hb, hm', .inr ⟨?_, hle⟩⟩
    rcases hcase with rfl | hshort
    · exact Nat.lt_of_le_of_lt (Nat.mod_le _ _) hlt
    · exact Nat.lt_trans hshort.1 hlt

/-! ### Renewing the window -/

/-- What a successful revalidation does. -/
theorem revalidate_cases {v v' : View} {h : Heap} {w : Window}
    (hr : v.revalidate h = .ok (v', w)) :
    ∃ i m, v.binding = .memory i ∧ h.memories[i]? = some m ∧ v' = { v with window := some w } ∧
      ((v.window = some w ∧ Fresh w ((h.bytes m.buffer).size % UInt32.size)) ∨ w = m.window h) := by
  unfold revalidate at hr
  cases hb : v.binding with
  | nothing =>
      rw [hb] at hr
      cases hr
  | absent =>
      rw [hb] at hr
      cases hr
  | memory i =>
      simp only [hb] at hr
      cases hm : h.memories[i]? with
      | none =>
          rw [hm] at hr
          cases hr
      | some m =>
          refine ⟨i, m, rfl, hm, ?_⟩
          simp only [hm] at hr
          cases hw : v.window with
          | none =>
              simp only [hw] at hr
              split_ifs at hr
              cases hr
              exact ⟨rfl, .inr rfl⟩
          | some u =>
              simp only [hw] at hr
              split_ifs at hr with hfresh hread
              · cases hr
                exact ⟨by rw [← hb, ← hw], .inl ⟨rfl, hfresh⟩⟩
              · cases hr
                exact ⟨rfl, .inr rfl⟩

theorem window_of_revalidate {v v' : View} {h : Heap} {w : Window} (hc : v.Coherent h)
    (hr : v.revalidate h = .ok (v', w)) :
    ∃ i m, v.binding = .memory i ∧ h.memories[i]? = some m ∧ w = m.window h ∧
      v' = { v with window := some w } := by
  obtain ⟨i, m, hb, hm, hv, hkept | hnew⟩ := revalidate_cases hr
  · obtain ⟨hw, hfresh⟩ := hkept
    obtain ⟨j, n, hb', hn, hcase⟩ := hc w hw
    obtain rfl : i = j := by simpa [hb] using hb'
    obtain rfl : m = n := by simpa [hm] using hn
    rcases hcase with hlive | hshort
    · exact ⟨i, m, hb, hm, hlive, hv⟩
    · exact absurd hfresh (not_fresh_of_lt hshort.1 hshort.2)
  · exact ⟨i, m, hb, hm, hnew, hv⟩

/-- A memory that can be read can be looked at. -/
theorem revalidate_of_readable {v : View} {h : Heap} {i : Nat} {m : Memory}
    (hb : v.binding = .memory i) (hm : h.memories[i]? = some m) (hread : m.readable = true) :
    ∃ v' w, v.revalidate h = .ok (v', w) := by
  simp only [revalidate, hb, hm, hread, if_true]
  cases v.window with
  | none => exact ⟨_, _, rfl⟩
  | some w =>
      by_cases hfresh : Fresh w ((h.bytes m.buffer).size % UInt32.size)
      · exact ⟨_, _, if_pos hfresh⟩
      · exact ⟨_, _, if_neg hfresh⟩

/-- The view after an attempt to renew its window. -/
def renewed (v : View) (h : Heap) : View :=
  match v.revalidate h with
  | .ok (v', _) => v'
  | .error _ => v

theorem Coherent.renewed {v : View} {h : Heap} (hc : v.Coherent h) : (v.renewed h).Coherent h := by
  unfold View.renewed
  split
  · rename_i v' w hr
    obtain ⟨i, m, hb, hm, hw, rfl⟩ := window_of_revalidate hc hr
    intro u hu
    obtain rfl := Option.some.inj hu
    exact ⟨i, m, hb, hm, .inl hw⟩
  · exact hc

theorem view_read (v : View) (h : Heap) (address length : UInt32) :
    (v.read h address length).1 = v.renewed h := by
  unfold read renewed
  rcases v.revalidate h with f | ⟨v', w⟩
  · rfl
  · simp only
    split_ifs <;> rfl

theorem view_readText (v : View) (h : Heap) (address length : UInt32) :
    (v.readText h address length).1 = (v.read h address length).1 := by
  unfold readText
  rcases v.read h address length with ⟨v', f | b⟩ <;> rfl

theorem view_write (v : View) (h : Heap) (address : UInt32) (data : Bytes) :
    (v.write h address data).1 = v.renewed h := by
  unfold write renewed
  rcases v.revalidate h with f | ⟨v', w⟩
  · rfl
  · simp only
    split_ifs <;> rfl

theorem view_length (v : View) (h : Heap) : (v.length h).1 = v.renewed h := by
  unfold length renewed
  rcases v.revalidate h with f | ⟨v', w⟩ <;> rfl

/-! ### Reading and writing -/

/-- What a successful read answers. -/
theorem read_live {v : View} {h : Heap} {address length : UInt32} {b : Bytes} (hc : v.Coherent h)
    (hr : (v.read h address length).2 = .ok b) :
    ∃ i m, v.binding = .memory i ∧ h.memories[i]? = some m ∧
      address.toNat + length.toNat ≤ (h.bytes m.buffer).size ∧
      b = (h.bytes m.buffer).slice address.toNat length.toNat := by
  unfold read at hr
  cases hrev : v.revalidate h with
  | error f =>
      rw [hrev] at hr
      cases hr
  | ok p =>
      obtain ⟨v', w⟩ := p
      obtain ⟨i, m, hb, hm, rfl, -⟩ := window_of_revalidate hc hrev
      simp only [hrev, Memory.window] at hr
      split_ifs at hr with hin
      cases hr
      exact ⟨i, m, hb, hm, Nat.le_trans hin (Nat.mod_le _ _), rfl⟩

/-- The bytes of data that a write copies: as many as its length in 32 bits says. -/
def copied (data : Bytes) : Bytes := data.extract 0 (data.size % UInt32.size)

theorem size_copied (data : Bytes) : (copied data).size = data.size % UInt32.size := by
  simp only [copied, Array.size_extract]
  have := Nat.mod_le data.size UInt32.size
  omega

/-- A write either changes nothing in memory or writes into the live buffer. -/
theorem write_cases {v : View} {h : Heap} (hc : v.Coherent h) (address : UInt32) (data : Bytes) :
    ((v.write h address data).2.1 = h ∧ ∃ f, (v.write h address data).2.2 = .error f) ∨
    (∃ i m, v.binding = .memory i ∧ h.memories[i]? = some m ∧
      address.toNat + data.size % UInt32.size ≤ (h.bytes m.buffer).size % UInt32.size ∧
      (v.write h address data).2 = (h.writeBuffer m.buffer address.toNat (copied data), .ok ())) := by
  unfold write
  cases hrev : v.revalidate h with
  | error f => exact .inl ⟨rfl, f, rfl⟩
  | ok p =>
      obtain ⟨v', w⟩ := p
      obtain ⟨i, m, hb, hm, rfl, -⟩ := window_of_revalidate hc hrev
      simp only
      split_ifs with hin
      · exact .inr ⟨i, m, hb, hm, hin, rfl⟩
      · exact .inl ⟨rfl, _, rfl⟩

/-- Reading a memory that can be read succeeds when the span lies in it. -/
theorem read_readable {v : View} {h : Heap} (hc : v.Coherent h) {i : Nat} {m : Memory}
    (hb : v.binding = .memory i) (hm : h.memories[i]? = some m) (hread : m.readable = true)
    (address length : UInt32) :
    (v.read h address length).2 =
      if address.toNat + length.toNat ≤ (m.window h).length then
        .ok ((h.bytes m.buffer).slice address.toNat length.toNat)
      else .error (.memoryAccess .read address.toNat length.toNat) := by
  obtain ⟨v', w, hrev⟩ := revalidate_of_readable hb hm hread
  obtain ⟨j, n, hb', hn, rfl, -⟩ := window_of_revalidate hc hrev
  obtain rfl : i = j := by simpa [hb] using hb'
  obtain rfl : m = n := by simpa [hm] using hn
  simp only [read, hrev]
  split_ifs <;> rfl

/-- Writing into a memory that can be read succeeds when the span lies in it. -/
theorem write_readable {v : View} {h : Heap} (hc : v.Coherent h) {i : Nat} {m : Memory}
    (hb : v.binding = .memory i) (hm : h.memories[i]? = some m) (hread : m.readable = true)
    (address : UInt32) (data : Bytes) :
    (v.write h address data).2 =
      if address.toNat + data.size % UInt32.size ≤ (m.window h).length then
        (h.writeBuffer m.buffer address.toNat (copied data), .ok ())
      else (h, .error (.memoryAccess .write address.toNat (data.size % UInt32.size))) := by
  obtain ⟨v', w, hrev⟩ := revalidate_of_readable hb hm hread
  obtain ⟨j, n, hb', hn, rfl, -⟩ := window_of_revalidate hc hrev
  obtain rfl : i = j := by simpa [hb] using hb'
  obtain rfl : m = n := by simpa [hm] using hn
  simp only [write, hrev]
  split_ifs <;> rfl

/-- What a successful write does to memories: the live buffer of the bound memory is written, and
nothing else. -/
theorem live?_writeBuffer {h : Heap} (hh : h.Apart) {i : Nat} {m : Memory} {start : Nat}
    {data : Bytes} (hm : h.memories[i]? = some m) (hin : start + data.size ≤ (h.bytes m.buffer).size) :
    (∃ b, (h.writeBuffer m.buffer start data).live? i = some b ∧
      (h.bytes m.buffer).Written start data b) ∧
    (∀ k, k ≠ m.buffer → (h.writeBuffer m.buffer start data).bytes k = h.bytes k) ∧
    (∀ j, j ≠ i → (h.writeBuffer m.buffer start data).live? j = h.live? j) := by
  have hother : ∀ k, k ≠ m.buffer → (h.writeBuffer m.buffer start data).bytes k = h.bytes k := by
    intro k hk
    rw [Heap.bytes_writeBuffer, if_neg hk]
  refine ⟨⟨(h.bytes m.buffer).overwrite start data, ?_, Bytes.written_overwrite hin⟩, hother, ?_⟩
  · rw [Heap.live?_eq (h := h.writeBuffer m.buffer start data) hm, Heap.bytes_writeBuffer, if_pos rfl]
  · intro j hj
    cases hn : h.memories[j]? with
    | none => simp [Heap.live?, Heap.writeBuffer, hn]
    | some n =>
        have hne : n.buffer ≠ m.buffer := fun heq => hj (hh.unique j i n m hn hm heq)
        rw [Heap.live?_eq (h := h.writeBuffer m.buffer start data) hn, Heap.live?_eq hn, hother _ hne]

/-! ### Runs -/

/-- What is done to a view, and to memories behind its back. -/
inductive Act
  | bind (b : Binding)
  | revalidate
  | read (address length : UInt32)
  | write (address : UInt32) (data : Bytes)
  | length
  | memory (c : Heap.Change)

/-- Carries out one act on a view and the memories there are. -/
def act (s : View × Heap) : Act → View × Heap
  | .bind b => (s.1.bind b, s.2)
  | .revalidate => (s.1.renewed s.2, s.2)
  | .read address length => ((s.1.read s.2 address length).1, s.2)
  | .write address data => ((s.1.write s.2 address data).1, (s.1.write s.2 address data).2.1)
  | .length => ((s.1.length s.2).1, s.2)
  | .memory c => (s.1, s.2.change c)

/-- Carries out acts one after the other. -/
def run (s : View × Heap) (acts : List Act) : View × Heap := acts.foldl act s

theorem run_append (s : View × Heap) (acts more : List Act) :
    run s (acts ++ more) = run (run s acts) more := List.foldl_append

/-- The view is coherent and memories live apart. -/
structure Sound (s : View × Heap) : Prop where
  coherent : s.1.Coherent s.2
  apart : s.2.Apart

theorem sound_start : Sound ({}, {}) := by
  refine ⟨?_, Heap.apart_empty⟩
  intro w hw
  cases hw

theorem Coherent.bind {v : View} {h : Heap} (hc : v.Coherent h) (b : Binding) :
    (v.bind b).Coherent h := by
  unfold View.bind
  split_ifs with hb
  · exact hc
  · intro w hw
    cases hw

theorem Sound.write {v : View} {h : Heap} (hs : Sound (v, h)) (address : UInt32) (data : Bytes) :
    Sound ((v.write h address data).1, (v.write h address data).2.1) := by
  rw [view_write]
  obtain ⟨hsame, -⟩ | ⟨i, m, -, -, -, hwrite⟩ := write_cases hs.coherent address data
  · rw [hsame]
    exact ⟨hs.coherent.renewed, hs.apart⟩
  · rw [hwrite]
    exact ⟨hs.coherent.renewed.mono (Heap.extends_writeBuffer h _ _ _), hs.apart.writeBuffer _ _ _⟩

/-- **One act** keeps the view coherent. -/
theorem Sound.act {s : View × Heap} (hs : Sound s) (a : Act) : Sound (View.act s a) := by
  cases a with
  | bind b => exact ⟨hs.coherent.bind b, hs.apart⟩
  | revalidate => exact ⟨hs.coherent.renewed, hs.apart⟩
  | read address length =>
      refine ⟨?_, hs.apart⟩
      simp only [View.act, view_read]
      exact hs.coherent.renewed
  | write address data => exact Sound.write hs address data
  | length =>
      refine ⟨?_, hs.apart⟩
      simp only [View.act, view_length]
      exact hs.coherent.renewed
  | memory c => exact ⟨hs.coherent.mono (Heap.extends_change hs.apart c), hs.apart.change c⟩

/-- **A run** keeps the view coherent. -/
theorem Sound.run {s : View × Heap} (hs : Sound s) (acts : List Act) : Sound (View.run s acts) := by
  induction acts generalizing s with
  | nil => exact hs
  | cons a acts ih => exact ih (hs.act a)

/-- The window is that of the live buffer of the memory that the view is bound to. -/
def Shows (v : View) (h : Heap) (w : Window) : Prop :=
  ∃ i m, v.binding = .memory i ∧ h.memories[i]? = some m ∧ w = m.window h

theorem Sound.shows {s : View × Heap} (hs : Sound s) {v' : View} {w : Window}
    (hr : s.1.revalidate s.2 = .ok (v', w)) : s.1.Shows s.2 w := by
  obtain ⟨i, m, hb, hm, hw, -⟩ := window_of_revalidate hs.coherent hr
  exact ⟨i, m, hb, hm, hw⟩

/-- **The view shows the live memory**, after any acts.  A window that is used is that of the bound
memory's live buffer, also after an attempt to renew it has failed.  A successful read answers what
the live buffer holds.  A successful write changes the live buffer of the bound memory, only in the
span that is written, and no other buffer; a failed one changes nothing. -/
theorem view_shows_live_memory (acts : List Act) :
    let s := run ({}, {}) acts
    let v := s.1
    let h := s.2
    (∀ v' w, v.revalidate h = .ok (v', w) → v.Shows h w) ∧
    (∀ f more v' w, v.revalidate h = .error f →
      let s' := run s (.revalidate :: more)
      s'.1.revalidate s'.2 = .ok (v', w) → s'.1.Shows s'.2 w) ∧
    (∀ address length b, (v.read h address length).2 = .ok b → ∃ i live,
      v.binding = .memory i ∧ h.live? i = some live ∧
      address.toNat + length.toNat ≤ live.size ∧ b = live.slice address.toNat length.toNat) ∧
    (∀ address data, (v.write h address data).2.2 = .ok () → ∃ i m live',
      v.binding = .memory i ∧ h.memories[i]? = some m ∧
      (v.write h address data).2.1.live? i = some live' ∧
      (h.bytes m.buffer).Written address.toNat (copied data) live' ∧
      (∀ k, k ≠ m.buffer → (v.write h address data).2.1.bytes k = h.bytes k) ∧
      (∀ j, j ≠ i → (v.write h address data).2.1.live? j = h.live? j)) ∧
    (∀ address data f, (v.write h address data).2.2 = .error f →
      (v.write h address data).2.1 = h) := by
  intro s v h
  have hs : Sound s := sound_start.run acts
  refine ⟨?_, ?_, ?_, ?_, ?_⟩
  · intro v' w hr
    exact hs.shows hr
  · intro f more v' w _ s' hr
    exact (hs.run (.revalidate :: more)).shows hr
  · intro address length b hr
    obtain ⟨i, m, hb, hm, hin, rfl⟩ := read_live hs.coherent hr
    exact ⟨i, h.bytes m.buffer, hb, Heap.live?_eq hm, hin, rfl⟩
  · intro address data hr
    obtain ⟨-, f, hf⟩ | ⟨i, m, hb, hm, hin, hwrite⟩ := write_cases hs.coherent address data
    · rw [hf] at hr
      cases hr
    · have hspan : address.toNat + (copied data).size ≤ (h.bytes m.buffer).size := by
        rw [size_copied]
        exact Nat.le_trans hin (Nat.mod_le _ _)
      obtain ⟨⟨live', hlive, hwritten⟩, hbuffers, hmemories⟩ := live?_writeBuffer hs.apart hm hspan
      rw [hwrite]
      exact ⟨i, m, live', hb, hm, hlive, hwritten, hbuffers, hmemories⟩
  · intro address data f hr
    obtain ⟨hsame, -⟩ | ⟨i, m, -, -, -, hwrite⟩ := write_cases hs.coherent address data
    · exact hsame
    · rw [hwrite] at hr
      cases hr

-- The window that the first read took shows the old buffer; the second read sees the live one.
example :
    let s := run ({}, {}) [.memory (.allocate #[1, 2]), .bind (.memory 0), .read 0 2,
      .memory (.grow 0 #[3]), .memory (.write 0 0 #[9])]
    s.1.window = some ⟨0, 2⟩ ∧ (s.1.read s.2 0 3).2 = .ok #[9, 2, 3] :=
  ⟨rfl, rfl⟩

end View
end GuestHost
