import GuestHost.Bridge
import GuestHost.Proofs.Exchange.History
import GuestHost.Proofs.Memory.Coherence

/-! # What a guest polls stays true until it imports

A guest polls the length of the pending file, makes room for it and then has it copied there.  In
between anything may go on, as long as no choice is applied: the room must still be enough.

* **Calls** (`Bridge.Call`).  `Bridge.act` carries out a call on a bridge and the memories there are;
  `Bridge.run` carries out a list of them.
* A call on the bridge is at most one call on its exchange (`exchange_act`), and for its view it is a
  run of acts (`view_act`).  So what is known of exchanges and views holds of every bridge
  (`exchange_run`, `view_run`).
* **Quiet calls** (`Bridge.Call.Quiet`) apply no choice and consume no file.  They leave the pending
  file alone because every choice has to wait in the queue (`pending_run`).

`polled_until_import` puts this together with what an import does (`importFile_readable`).  The size
of a memory is told in 32 bits, and so a memory of `2 ^ 32` bytes takes no file at all
(`largest_memory_takes_no_file`). -/

namespace GuestHost

namespace Exchange

/-- The call neither applies a choice nor consumes the pending file, if choices have to wait. -/
def Call.Quiet : Call → Prop
  | .complete _ => False
  | .drain => False
  | .consume .. => False
  | _ => True

theorem pending_deliver {x : Exchange} (hq : x.queue.isSome) (s : Selection) :
    (x.deliver s).1.pending = x.pending := by
  obtain ⟨q, hq⟩ := Option.isSome_iff_exists.mp hq
  simp only [deliver, hq]

theorem pending_act {x : Exchange} (hq : x.queue.isSome) {c : Call} (hc : c.Quiet) :
    (x.act c).1.pending = x.pending := by
  cases c with
  | request t =>
      obtain ⟨-, ⟨openings, interrupted, e⟩, -⟩ | ⟨s, -, e⟩ := request_cases x t
      · rw [e]
      · rw [e]
        exact pending_deliver (x := { x with awaiting := true, openings := x.openings + 1 }) hq s
  | deliver s => exact pending_deliver hq s
  | give d name text => rfl
  | close => rfl
  | complete s => exact hc.elim
  | drain => exact hc.elim
  | consume v h dest => exact hc.elim

end Exchange

namespace Bridge

/-! ### Runs -/

/-- A call on a bridge, or something that goes on around it. -/
inductive Call
  | bind (m : Binding)
  | log (level : GuestLevel) (address length : UInt32)
  | play (frequency volume : Float)
  | dropAll
  | request
  /-- The guest looks at the length and the tag of the pending file. -/
  | poll
  | importFile (dest : UInt32)
  | giveFile (nameAddress nameLength textAddress textLength : UInt32)
  | dispatch
  | close
  /-- A call on the exchange itself: a picker delivers, or a choice is completed directly. -/
  | files (c : Exchange.Call)
  /-- Something happens to memories behind the bridge's back. -/
  | memory (c : Heap.Change)

/-- Carries out one call on a bridge and the memories there are. -/
def act (s : Bridge × Heap) : Call → Bridge × Heap
  | .bind m => (s.1.bind m, s.2)
  | .log level address length => ((s.1.log s.2 level address length).1, s.2)
  | .play frequency volume => ((s.1.play frequency volume).1, s.2)
  | .dropAll => (s.1.dropAll.1, s.2)
  | .request => (s.1.request.1, s.2)
  | .poll => s
  | .importFile dest => ((s.1.importFile s.2 dest).1, (s.1.importFile s.2 dest).2.1)
  | .giveFile nameAddress nameLength textAddress textLength =>
    ((s.1.giveFile s.2 nameAddress nameLength textAddress textLength).1, s.2)
  | .dispatch => (s.1.dispatch.1, s.2)
  | .close => (s.1.close.1, s.2)
  | .files c => ({ s.1 with exchange := (s.1.exchange.act c).1 }, s.2)
  | .memory c => (s.1, s.2.change c)

/-- Carries out calls one after the other. -/
def run (s : Bridge × Heap) (calls : List Call) : Bridge × Heap := calls.foldl act s

/-- The call applies no choice and consumes no file. -/
def Call.Quiet : Call → Prop
  | .dispatch => False
  | .importFile _ => False
  | .files c => c.Quiet
  | _ => True

/-! ### The exchange of a bridge -/

/-- The call on the exchange that a call on the bridge makes. -/
def Call.onExchange? (s : Bridge × Heap) : Call → Option Exchange.Call
  | .request => some (.request s.1.deliveries.files)
  | .importFile dest => some (.consume s.1.view s.2 dest)
  | .dispatch => some .drain
  | .close => some .close
  | .files c => some c
  | _ => none

theorem quiet_onExchange? {s : Bridge × Heap} {c : Call} (hc : c.Quiet) {e : Exchange.Call}
    (he : c.onExchange? s = some e) : e.Quiet := by
  cases c with
  | request => cases he; trivial
  | close => cases he; trivial
  | files c' => cases he; exact hc
  | dispatch => exact hc.elim
  | importFile dest => exact hc.elim
  | _ => cases he

theorem importFile_fst (b : Bridge) (h : Heap) (dest : UInt32) :
    (b.importFile h dest).1 = { b with
      exchange := (b.exchange.consume b.view h dest).exchange
      view := (b.exchange.consume b.view h dest).view } := by
  simp only [importFile]
  split <;> rfl

theorem importFile_heap (b : Bridge) (h : Heap) (dest : UInt32) :
    (b.importFile h dest).2.1 = (b.exchange.consume b.view h dest).heap := by
  simp only [importFile]
  split <;> rfl

theorem log_fst (b : Bridge) (h : Heap) (level : GuestLevel) (address length : UInt32) :
    (b.log h level address length).1 = { b with view := (b.view.read h address length).1 } := by
  rw [← View.view_readText]
  unfold log
  rcases b.view.readText h address length with ⟨v, f | text⟩ <;> rfl

/-- Handing a text out changes the window of the view and what was delivered. -/
theorem giveFile_fst (b : Bridge) (h : Heap) (na nl ta tl : UInt32) :
    ∃ deliveries, (b.giveFile h na nl ta tl).1 = { b with
        view := (b.view.read h na nl).1, deliveries } ∨
      (b.giveFile h na nl ta tl).1 = { b with
        view := ((b.view.read h na nl).1.read h ta tl).1, deliveries } := by
  unfold giveFile
  rw [← View.view_readText b.view]
  rcases b.view.readText h na nl with ⟨v, f | name⟩
  · exact ⟨b.deliveries, .inl rfl⟩
  · simp only
    rw [← View.view_readText v]
    rcases v.readText h ta tl with ⟨v', f | text⟩
    · exact ⟨b.deliveries, .inr rfl⟩
    · exact ⟨_, .inr rfl⟩

/-- A call on a bridge is at most one call on its exchange. -/
theorem exchange_act (s : Bridge × Heap) (c : Call) :
    (act s c).1.exchange = s.1.exchange.after (c.onExchange? s).toList := by
  cases c with
  | bind m =>
      simp only [act, bind]
      split_ifs <;> rfl
  | log level address length =>
      simp only [act, log_fst]
      rfl
  | giveFile na nl ta tl =>
      obtain ⟨deliveries, e | e⟩ := giveFile_fst s.1 s.2 na nl ta tl
      · simp only [act, e]
        rfl
      · simp only [act, e]
        rfl
  | importFile dest =>
      simp only [act, importFile_fst]
      rfl
  | _ => rfl

theorem exchange_run (s : Bridge × Heap) (calls : List Call) :
    ∃ cs, (run s calls).1.exchange = s.1.exchange.after cs := by
  induction calls generalizing s with
  | nil => exact ⟨[], rfl⟩
  | cons c calls ih =>
      obtain ⟨cs, hcs⟩ := ih (act s c)
      refine ⟨(c.onExchange? s).toList ++ cs, ?_⟩
      rw [Exchange.after_append, ← exchange_act]
      exact hcs

/-! ### The view of a bridge -/

/-- For the view and the memories there are, a call on a bridge is a run of acts. -/
theorem view_act (s : Bridge × Heap) (c : Call) :
    ∃ acts, ((act s c).1.view, (act s c).2) = View.run (s.1.view, s.2) acts := by
  cases c with
  | bind m =>
      simp only [act, bind]
      split_ifs
      · exact ⟨[], rfl⟩
      · exact ⟨[.bind m], rfl⟩
  | log level address length =>
      refine ⟨[.read address length], ?_⟩
      simp only [act, log_fst]
      rfl
  | giveFile na nl ta tl =>
      obtain ⟨deliveries, e | e⟩ := giveFile_fst s.1 s.2 na nl ta tl
      · refine ⟨[.read na nl], ?_⟩
        simp only [act, e]
        rfl
      · refine ⟨[.read na nl, .read ta tl], ?_⟩
        simp only [act, e]
        rfl
  | importFile dest =>
      simp only [act, importFile_fst, importFile_heap]
      obtain ⟨-, e⟩ | ⟨p, v', h', f, -, hw, e⟩ | ⟨p, v', h', -, hw, e⟩ :=
        Exchange.consume_cases s.1.exchange s.1.view s.2 dest
      · exact ⟨[], by rw [e]; rfl⟩
      · exact ⟨[.write dest p.data], by simp [e, View.run, View.act, hw]⟩
      · exact ⟨[.write dest p.data], by simp [e, View.run, View.act, hw]⟩
  | memory c => exact ⟨[.memory c], rfl⟩
  | _ => exact ⟨[], rfl⟩

theorem view_run (s : Bridge × Heap) (calls : List Call) :
    ∃ acts, ((run s calls).1.view, (run s calls).2) = View.run (s.1.view, s.2) acts := by
  induction calls generalizing s with
  | nil => exact ⟨[], rfl⟩
  | cons c calls ih =>
      obtain ⟨first, hfirst⟩ := view_act s c
      obtain ⟨rest, hrest⟩ := ih (act s c)
      refine ⟨first ++ rest, ?_⟩
      rw [View.run_append, ← hfirst]
      exact hrest

theorem sound_run (o : BridgeOptions) (calls : List Call) :
    View.Sound ((run (new o, {}) calls).1.view, (run (new o, {}) calls).2) := by
  obtain ⟨acts, hacts⟩ := view_run (new o, {}) calls
  rw [hacts]
  exact View.sound_start.run acts

/-! ### Quiet calls -/

/-- Choices wait in the queue of a bridge, whatever it was used for. -/
theorem queue_run (o : BridgeOptions) (calls : List Call) :
    (run (new o, {}) calls).1.exchange.queue.isSome := by
  obtain ⟨cs, hcs⟩ := exchange_run (new o, {}) calls
  have hkeeps := (Exchange.keeps_new { o.files with queued := true }).after cs
  rw [hcs]
  exact hkeeps.queued

theorem run_append (s : Bridge × Heap) (calls more : List Call) :
    run s (calls ++ more) = run (run s calls) more := List.foldl_append

/-- **One quiet call** leaves the pending file alone. -/
theorem pending_act {s : Bridge × Heap} (hq : s.1.exchange.queue.isSome) {c : Call} (hc : c.Quiet) :
    (act s c).1.exchange.pending = s.1.exchange.pending := by
  rw [exchange_act]
  cases he : c.onExchange? s with
  | none => rfl
  | some e => exact Exchange.pending_act hq (quiet_onExchange? hc he)

/-- **Quiet calls** leave the pending file alone. -/
theorem pending_run (o : BridgeOptions) (calls quiet : List Call) (hquiet : ∀ c ∈ quiet, c.Quiet) :
    (run (run (new o, {}) calls) quiet).1.exchange.pending
      = (run (new o, {}) calls).1.exchange.pending := by
  induction quiet generalizing calls with
  | nil => rfl
  | cons c quiet ih =>
      have hrest := ih (calls ++ [c]) fun d hd => hquiet d (List.mem_cons_of_mem c hd)
      rw [run_append] at hrest
      exact hrest.trans (pending_act (queue_run o calls) (hquiet c List.mem_cons_self))

/-! ### Importing -/

/-- Without a pending file an import does nothing. -/
theorem importFile_nothing {b : Bridge} (hp : b.exchange.pending = none) (h : Heap) (dest : UInt32) :
    (b.importFile h dest).1 = b ∧ (b.importFile h dest).2.1 = h ∧
      (b.importFile h dest).2.2.1 = .ok () := by
  simp [importFile, Exchange.consume, hp]

/-- An import that fails changes neither memory nor the exchange. -/
theorem importFile_error {b : Bridge} {h : Heap} (hc : b.view.Coherent h) {dest : UInt32} {f : Fault}
    (hf : (b.importFile h dest).2.2.1 = .error f) :
    (b.importFile h dest).2.1 = h ∧ (b.importFile h dest).1.exchange = b.exchange := by
  rw [importFile_heap, importFile_fst]
  obtain ⟨-, e⟩ | ⟨p, v', h', g, -, hw, e⟩ | ⟨p, v', h', -, -, e⟩ :=
    Exchange.consume_cases b.exchange b.view h dest
  · rw [e]
    exact ⟨rfl, rfl⟩
  · obtain ⟨hsame, -⟩ | ⟨i, m, -, -, -, hok⟩ := View.write_cases hc dest p.data
    · rw [hw] at hsame
      rw [e]
      exact ⟨hsame, rfl⟩
    · rw [hw] at hok
      cases hok
  · simp only [importFile, e] at hf
    cases hf

/-- What importing a file into a memory comes to: its first bytes, as many as polled, are in the live
buffer from `dest` on, nothing else has changed in memory, and the slot is empty. -/
structure Imported (h : Heap) (i : Nat) (m : Memory) (dest : Nat) (data : Bytes) (s : Bridge × Heap) :
    Prop where
  written : ∃ live, s.2.live? i = some live ∧ (h.bytes m.buffer).Written dest data live
  buffers : ∀ k, k ≠ m.buffer → s.2.bytes k = h.bytes k
  memories : s.2.memories = h.memories
  cleared : s.1.exchange.pending = none

/-- **Importing into a memory that can be read** succeeds when the file fits. -/
theorem importFile_readable {b : Bridge} {h : Heap} (hs : View.Sound (b.view, h)) {p : Pending}
    (hp : b.exchange.pending = some p) {i : Nat} {m : Memory} (hb : b.view.binding = .memory i)
    (hm : h.memories[i]? = some m) (hread : m.readable = true) (dest : UInt32) :
    ((b.importFile h dest).2.2.1 = .ok () ↔
      dest.toNat + b.exchange.length.toNat ≤ (m.window h).length) ∧
    ((b.importFile h dest).2.2.1 = .ok () →
      Imported h i m dest.toNat (p.data.extract 0 b.exchange.length.toNat)
        ((b.importFile h dest).1, (b.importFile h dest).2.1)) := by
  rw [Exchange.toNat_length hp]
  have hwrite := View.write_readable hs.coherent hb hm hread dest p.data
  rcases hw : b.view.write h dest p.data with ⟨v', h', r⟩
  rw [hw] at hwrite
  split_ifs at hwrite with hin
  · cases hwrite
    simp only [importFile, Exchange.consume, hp, hw, hin, true_implies]
    have hspan : dest.toNat + (View.copied p.data).size ≤ (h.bytes m.buffer).size := by
      rw [View.size_copied]
      exact Nat.le_trans hin (Nat.mod_le _ _)
    obtain ⟨hlive, hbuffers, -⟩ := View.live?_writeBuffer hs.apart hm hspan
    exact ⟨trivial, hlive, hbuffers, rfl, rfl⟩
  · cases hwrite
    simp [importFile, Exchange.consume, hp, hw, hin]

/-- **What a guest polls stays true until it imports.**  After quiet calls the length and the tag of
the pending file are the same.  Then an import into a memory that can be read succeeds exactly when
the polled length fits behind `dest` into the 32-bit size that the memory tells.  Below `2 ^ 32` bytes
that is all of the memory; a memory of `2 ^ 32` bytes tells that it has none, and takes nothing.  If it
succeeds it writes the first bytes of the file there, nothing else, and clears the slot.  An import
that fails changes neither memory nor the exchange, and one without a pending file succeeds and
changes nothing. -/
theorem polled_until_import (o : BridgeOptions) (calls quiet : List Call)
    (hquiet : ∀ c ∈ quiet, c.Quiet) :
    let s := run (new o, {}) calls
    let t := run s quiet
    let b := t.1
    let h := t.2
    let n := s.1.exchange.length.toNat
    b.exchange.length = s.1.exchange.length ∧ b.exchange.tag = s.1.exchange.tag ∧
    ∀ dest : UInt32,
      (∀ p i m, b.exchange.pending = some p → b.view.binding = .memory i →
        h.memories[i]? = some m → m.readable = true →
        let size := (h.bytes m.buffer).size
        n = p.data.size % UInt32.size ∧
        ((b.importFile h dest).2.2.1 = .ok () ↔ dest.toNat + n ≤ size % UInt32.size) ∧
        (size < UInt32.size →
          ((b.importFile h dest).2.2.1 = .ok () ↔ dest.toNat + n ≤ size)) ∧
        (size = UInt32.size → ((b.importFile h dest).2.2.1 = .ok () ↔ dest.toNat = 0 ∧ n = 0)) ∧
        ((b.importFile h dest).2.2.1 = .ok () →
          Imported h i m dest.toNat (p.data.extract 0 n)
            ((b.importFile h dest).1, (b.importFile h dest).2.1))) ∧
      (∀ f, (b.importFile h dest).2.2.1 = .error f →
        (b.importFile h dest).2.1 = h ∧ (b.importFile h dest).1.exchange = b.exchange) ∧
      (b.exchange.pending = none →
        (b.importFile h dest).1 = b ∧ (b.importFile h dest).2.1 = h ∧
          (b.importFile h dest).2.2.1 = .ok ()) := by
  intro s t b h n
  have hpending : b.exchange.pending = s.1.exchange.pending := pending_run o calls quiet hquiet
  have hlength : b.exchange.length = s.1.exchange.length := Exchange.length_congr hpending
  have hsound : View.Sound (b.view, h) := by
    have := sound_run o (calls ++ quiet)
    rwa [run_append] at this
  refine ⟨hlength, Exchange.tag_congr hpending, fun dest => ⟨?_, ?_, ?_⟩⟩
  · intro p i m hp hb hm hread size
    obtain ⟨hiff, himported⟩ := importFile_readable hsound hp hb hm hread dest
    have hn := Exchange.toNat_length hp
    rw [hlength] at hiff himported hn
    have htold : (b.importFile h dest).2.2.1 = .ok () ↔ dest.toNat + n ≤ size % UInt32.size := hiff
    refine ⟨hn, htold, ?_, ?_, himported⟩
    · intro hsmall
      rwa [Nat.mod_eq_of_lt hsmall] at htold
    · intro hlargest
      rw [htold, hlargest, Nat.mod_self]
      omega
  · intro f hf
    exact importFile_error hsound.coherent hf
  · intro hp
    exact importFile_nothing hp h dest

/-- A guest polls two bytes, asks for another file, which is delivered meanwhile, and grows its
memory; then two bytes are imported to the end of the memory as it is now. -/
theorem import_into_grown_memory :
    let chosen : List Call := [.memory (.allocate #[7, 7]), .bind (.memory 0),
      .files (.deliver ⟨"a.png", #[1, 2]⟩), .dispatch]
    let quiet : List Call := [.poll, .request, .files (.deliver ⟨"b", #[3, 4, 5]⟩),
      .memory (.grow 0 #[0, 0])]
    let s := run (new {}, {}) chosen
    let t := run s quiet
    s.1.exchange.length = 2 ∧ t.1.exchange.length = 2 ∧
      (t.1.importFile t.2 2).2.2.1 = .ok () ∧ (t.1.importFile t.2 3).2.2.1 ≠ .ok () := by
  intro chosen quiet s t
  have hquiet : ∀ c ∈ quiet, c.Quiet := by simp [quiet, Call.Quiet, Exchange.Call.Quiet]
  obtain ⟨hlength, -, himport⟩ := polled_until_import {} chosen quiet hquiet
  have hs : s.1.exchange.length = 2 := rfl
  have hmemory : t.2.memories[0]? = some ⟨1, true⟩ := rfl
  have hfits := fun dest => ((himport dest).1 _ 0 _ rfl rfl hmemory rfl).2.2.1 (by decide)
  refine ⟨hs, hlength.trans hs, (hfits 2).mpr ?_, ?_⟩
  · decide
  · intro hok
    have hbeyond := (hfits 3).mp hok
    revert hbeyond
    decide

/-- A memory of `2 ^ 32` bytes has room for a file of one byte, and refuses it. -/
theorem largest_memory_takes_no_file :
    let memory : Bytes := Array.replicate UInt32.size 0
    let s := run (new {}, {}) [.memory (.allocate memory), .bind (.memory 0),
      .files (.complete ⟨"a.l3", #[7]⟩)]
    s.1.view.binding = .memory 0 ∧ s.2.memories[0]? = some ⟨0, true⟩ ∧
      (s.2.bytes 0).size = UInt32.size ∧ s.1.exchange.pending.isSome ∧
      0 + s.1.exchange.length.toNat ≤ (s.2.bytes 0).size ∧
      (s.1.importFile s.2 0).2.2.1 ≠ .ok () := by
  intro memory
  have hsize : memory.size = UInt32.size := Array.size_replicate
  -- Only the length of the memory is used, and its bytes are not to be computed.
  clear_value memory
  intro s
  have hmemory : s.2.memories[0]? = some ⟨0, true⟩ := rfl
  have hbytes : (s.2.bytes 0).size = UInt32.size := hsize
  have hlength : s.1.exchange.length.toNat = 1 := rfl
  obtain ⟨hfits, -⟩ := importFile_readable (sound_run {} _) (p := ⟨"a.l3", #[7], .primary⟩) rfl
    (b := s.1) (h := s.2) rfl hmemory rfl 0
  refine ⟨rfl, hmemory, hbytes, rfl, ?_, ?_⟩
  · rw [hbytes, hlength]
    decide
  · intro hok
    have htold := hfits.mp hok
    rw [hlength, Memory.window, hbytes] at htold
    exact absurd htold (by decide)

end Bridge
end GuestHost
