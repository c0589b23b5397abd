import GuestHost.Proofs.Bridge.Polling
import GuestHost.Proofs.Outlet.Calls
import GuestHost.Proofs.Text.Decoding

/-! # Which calls a bridge refuses

A guest's call is refused when it passes a bad span of memory, and for no other reason: whatever goes
wrong at a picker, at an outlet or at the synth is noted and the guest goes on.

* **Spans.**  A span is outside when no memory is bound or when it reaches beyond the memory
  (`View.Outside`), and it is illegible when it is outside or its bytes are no text
  (`View.Illegible`).  What the memory has beyond its 32-bit size is overlooked
  (`View.Overlooked`).  A view of a memory that can be read refuses a text exactly when its span is
  illegible or overlooked (`readText_error_iff`), and what it reads is the text of the live bytes
  (`encode_readText`).
* **Answers.**  `Bridge.answer` and `Bridge.records` tell what a call answers and what it writes into
  the log; `Bridge.Call.Fatal` says which calls are to be refused, and `Bridge.Call.Overlooked` which
  are refused because a memory of `2 ^ 32` bytes tells that it has none.
* A refused call leaves everything as it was (`Bridge.Untouched`), and an export that is not refused
  is one call of each recipient (`Bridge.Exported`).

`refused_iff_fatal` shows this for every bridge in use. -/

namespace GuestHost

namespace View

/-! ### Spans -/

/-- The bytes of the memory in view. -/
def live? (v : View) (h : Heap) : Option Bytes :=
  match v.binding with
  | .memory i => h.live? i
  | _ => none

/-- The view is bound to nothing, or to a memory that can be read. -/
def Served (v : View) (h : Heap) : Prop :=
  v.binding = .nothing ∨
    ∃ i m, v.binding = .memory i ∧ h.memories[i]? = some m ∧ m.readable = true

/-- No memory is bound, or the span reaches beyond the one that is. -/
def Outside (v : View) (h : Heap) (address length : Nat) : Prop :=
  v.binding = .nothing ∨ ∃ live, v.live? h = some live ∧ live.size < address + length

/-- The span lies in the memory, but reaches beyond the size that the memory tells in 32 bits. -/
def Overlooked (v : View) (h : Heap) (address length : Nat) : Prop :=
  ∃ live, v.live? h = some live ∧ live.size % UInt32.size < address + length ∧
    address + length ≤ live.size

/-- The span is outside, or its bytes are no text. -/
def Illegible (v : View) (h : Heap) (address length : UInt32) : Prop :=
  v.Outside h address.toNat length.toNat ∨
    ∃ live, v.live? h = some live ∧
      ¬ Utf8.WellFormed (live.slice address.toNat length.toNat).toList

section spans
variable {v w : View} {h : Heap} {address length : UInt32}

theorem binding_renewed (v : View) (h : Heap) : (v.renewed h).binding = v.binding := by
  unfold renewed
  split
  · rename_i hr
    obtain ⟨i, m, -, -, rfl, -⟩ := revalidate_cases hr
    rfl
  · rfl

theorem live?_congr (hb : v.binding = w.binding) : v.live? h = w.live? h := by
  simp only [live?, hb]

theorem Served.congr (hs : v.Served h) (hb : w.binding = v.binding) : w.Served h := by
  unfold Served
  rw [hb]
  exact hs

theorem illegible_congr (hb : v.binding = w.binding) :
    v.Illegible h address length ↔ w.Illegible h address length := by
  simp only [Illegible, Outside, live?_congr hb, hb]

theorem live?_of_binding {i : Nat} {m : Memory} (hb : v.binding = .memory i)
    (hm : h.memories[i]? = some m) : v.live? h = some (h.bytes m.buffer) := by
  simp only [live?, hb, Heap.live?_eq hm]

theorem overlooked_congr (hb : v.binding = w.binding) (address length : Nat) :
    v.Overlooked h address length ↔ w.Overlooked h address length := by
  simp only [Overlooked, live?_congr hb]

theorem outside_iff {i : Nat} {m : Memory} (hb : v.binding = .memory i)
    (hm : h.memories[i]? = some m) (address length : Nat) :
    v.Outside h address length ↔ (h.bytes m.buffer).size < address + length := by
  simp [Outside, hb, live?_of_binding hb hm]

/-- A span that is neither outside nor overlooked lies in the window, and no other does. -/
theorem outside_or_overlooked_iff {i : Nat} {m : Memory} (hb : v.binding = .memory i)
    (hm : h.memories[i]? = some m) (address length : Nat) :
    v.Outside h address length ∨ v.Overlooked h address length ↔
      (m.window h).length < address + length := by
  have hle : (m.window h).length ≤ (h.bytes m.buffer).size := Nat.mod_le _ _
  have hwindow : (h.bytes m.buffer).size % UInt32.size = (m.window h).length := rfl
  simp only [outside_iff hb hm, Overlooked, live?_of_binding hb hm, Option.some.injEq,
    exists_eq_left', hwindow]
  omega

theorem illegible_iff {i : Nat} {m : Memory} (hb : v.binding = .memory i)
    (hm : h.memories[i]? = some m) :
    v.Illegible h address length ↔ (h.bytes m.buffer).size < address.toNat + length.toNat ∨
      ¬ Utf8.WellFormed ((h.bytes m.buffer).slice address.toNat length.toNat).toList := by
  rw [Illegible, outside_iff hb hm, live?_of_binding hb hm]
  simp

theorem legible_iff {i : Nat} {m : Memory} (hb : v.binding = .memory i)
    (hm : h.memories[i]? = some m) :
    ¬ v.Illegible h address length ↔ address.toNat + length.toNat ≤ (h.bytes m.buffer).size ∧
      Utf8.WellFormed ((h.bytes m.buffer).slice address.toNat length.toNat).toList := by
  rw [illegible_iff hb hm, not_or, Nat.not_lt, not_not]

/-- Nothing is overlooked of a memory below `2 ^ 32` bytes. -/
theorem not_overlooked (hsmall : ∀ live, v.live? h = some live → live.size < UInt32.size)
    (address length : Nat) : ¬ v.Overlooked h address length := by
  rintro ⟨live, hlive, hbeyond, hin⟩
  rw [Nat.mod_eq_of_lt (hsmall live hlive)] at hbeyond
  omega

/-! ### Reading text -/

theorem textOf_error_iff (address : UInt32) {b : Bytes} :
    (∃ f, textOf address b = .error f) ↔ ¬ Utf8.WellFormed b.toList := by
  rw [Utf8.wellFormed_iff]
  unfold textOf
  cases Utf8.decode b.toList <;> simp

/-- **Reading a text fails** exactly when its span is illegible or overlooked. -/
theorem readText_error_iff (hc : v.Coherent h) (hs : v.Served h) :
    (∃ f, (v.readText h address length).2 = .error f) ↔
      v.Illegible h address length ∨ v.Overlooked h address.toNat length.toNat := by
  rw [readText_eq]
  rcases hs with hb | ⟨i, m, hb, hm, hread⟩
  · have hread : (v.read h address length).2 = .error .unbound := by
      simp only [read, revalidate, hb]
    rw [hread]
    exact ⟨fun _ => .inl (.inl (.inl hb)), fun _ => ⟨.unbound, rfl⟩⟩
  · rw [Illegible, or_right_comm, outside_or_overlooked_iff hb hm, read_readable hc hb hm hread,
      live?_of_binding hb hm]
    split_ifs with hin
    · simp only [Nat.not_lt.mpr hin, false_or, Option.some.injEq, exists_eq_left', Except.bind,
        textOf_error_iff]
    · exact ⟨fun _ => .inl (by omega), fun _ => ⟨_, rfl⟩⟩

/-- A text that was read is encoded to the live bytes of its span. -/
theorem encode_readText (hc : v.Coherent h) {text : String}
    (ht : (v.readText h address length).2 = .ok text) :
    ∃ live, v.live? h = some live ∧ Utf8.encode text = live.slice address.toNat length.toNat := by
  rw [readText_eq] at ht
  cases hr : (v.read h address length).2 with
  | error f =>
      rw [hr] at ht
      cases ht
  | ok b =>
      rw [hr] at ht
      obtain ⟨i, m, hb, hm, -, rfl⟩ := read_live hc hr
      exact ⟨_, live?_of_binding hb hm, textOf_eq_ok_iff.mp ht⟩

end spans

end View

namespace Exchange

/-- The artifact that a text becomes. -/
def artifact (x : Exchange) (name text : String) : Artifact :=
  { name, content := Utf8.encode text, createdAt := x.now }

theorem deliveries_give_none {x : Exchange} (ho : x.outlet = none) (d : Deliveries)
    (name text : String) : (x.give d name text).1 = d := by
  simp only [give, ho]

/-- Handing a text out is one delivery to the outlet. -/
theorem deliveries_give_some {x : Exchange} {o : Outlet Recipient} (ho : x.outlet = some o)
    (d : Deliveries) (name text : String) :
    (x.give d name text).1 = (d.receive o (x.artifact name text)).1 := by
  simp only [give, ho]
  split <;> rfl

/-! The outlet is the configured one, whatever is done. -/

theorem outlet_deliver (x : Exchange) (s : Selection) : (x.deliver s).1.outlet = x.outlet := by
  unfold deliver
  split <;> rfl

theorem outlet_completeAll (x : Exchange) (ss : List Selection) :
    (x.completeAll ss).1.outlet = x.outlet := by
  induction ss generalizing x with
  | nil => rfl
  | cons s ss ih => exact ih (x.complete s).1

theorem outlet_act (x : Exchange) (c : Call) : (x.act c).1.outlet = x.outlet := by
  cases c with
  | request t =>
      obtain ⟨-, ⟨openings, interrupted, e⟩, -⟩ | ⟨s, -, e⟩ := request_cases x t
      · rw [e]
      · rw [e]
        exact outlet_deliver _ s
  | deliver s => exact outlet_deliver x s
  | complete s => rfl
  | drain =>
      rw [act_drain]
      exact outlet_completeAll x x.waiting
  | consume v h dest =>
      obtain ⟨v', h', f, e⟩ | ⟨p, v', h', -, -, e⟩ := consume_outcome x v h dest <;>
        simp only [act, e]
  | give d name text => rfl
  | close => rfl

theorem outlet_after (x : Exchange) (cs : List Call) : (x.after cs).outlet = x.outlet := by
  induction cs generalizing x with
  | nil => rfl
  | cons c cs ih => exact (ih (x.act c).1).trans (outlet_act x c)

end Exchange

namespace Bridge

/-! ### Answers -/

/-- What a call answers: a failure, or that the guest may go on. -/
def answer (s : Bridge × Heap) : Call → Except Fault Unit
  | .log level address length => (s.1.log s.2 level address length).2.1
  | .importFile dest => (s.1.importFile s.2 dest).2.2.1
  | .giveFile nameAddress nameLength textAddress textLength =>
    (s.1.giveFile s.2 nameAddress nameLength textAddress textLength).2.1
  | _ => .ok ()

/-- The records that a call writes. -/
def records (s : Bridge × Heap) : Call → Journal
  | .log level address length => (s.1.log s.2 level address length).2.2
  | .play frequency volume => (s.1.play frequency volume).2
  | .dropAll => s.1.dropAll.2
  | .request => s.1.request.2
  | .importFile dest => (s.1.importFile s.2 dest).2.2.2
  | .giveFile nameAddress nameLength textAddress textLength =>
    (s.1.giveFile s.2 nameAddress nameLength textAddress textLength).2.2
  | .dispatch => s.1.dispatch.2.2
  | .close => s.1.close.2
  | .files c => (s.1.exchange.act c).2
  | .bind _ | .poll | .memory _ => []

/-- The calls that have to be refused: those that pass a bad span. -/
def Call.Fatal (s : Bridge × Heap) : Call → Prop
  | .log _ address length => s.1.view.Illegible s.2 address length
  | .importFile dest =>
    s.1.exchange.pending.isSome ∧
      s.1.view.Outside s.2 dest.toNat s.1.exchange.length.toNat
  | .giveFile nameAddress nameLength textAddress textLength =>
    s.1.view.Illegible s.2 nameAddress nameLength ∨ s.1.view.Illegible s.2 textAddress textLength
  | _ => False

/-- The calls that are refused although they pass no bad span: the memory they look into tells less
than its size. -/
def Call.Overlooked (s : Bridge × Heap) : Call → Prop
  | .log _ address length => s.1.view.Overlooked s.2 address.toNat length.toNat
  | .importFile dest =>
    s.1.exchange.pending.isSome ∧
      s.1.view.Overlooked s.2 dest.toNat s.1.exchange.length.toNat
  | .giveFile nameAddress nameLength textAddress textLength =>
    s.1.view.Overlooked s.2 nameAddress.toNat nameLength.toNat ∨
      s.1.view.Overlooked s.2 textAddress.toNat textLength.toNat
  | _ => False

/-- A call has changed nothing that anybody can see: the pending file, the wish for one and the queue,
the voices, the artifacts handed over, memory and the log. -/
structure Untouched (s : Bridge × Heap) (c : Call) : Prop where
  exchange : (act s c).1.exchange = s.1.exchange
  pool : (act s c).1.pool = s.1.pool
  synth : (act s c).1.synth = s.1.synth
  deliveries : (act s c).1.deliveries = s.1.deliveries
  memory : (act s c).2 = s.2
  silent : records s c = []

section answers
variable {b : Bridge} {h : Heap}

/-- A message is read and written down, or it is refused. -/
theorem log_cases (b : Bridge) (h : Heap) (level : GuestLevel) (address length : UInt32) :
    (∃ v f, (b.view.readText h address length).2 = .error f ∧
      b.log h level address length = ({ b with view := v }, .error f, [])) ∨
    (∃ v text, (b.view.readText h address length).2 = .ok text ∧
      b.log h level address length
        = ({ b with view := v }, .ok (), [messageRecord b.scope level text])) := by
  unfold log
  rcases b.view.readText h address length with ⟨v, f | text⟩
  · exact .inl ⟨v, f, rfl, rfl⟩
  · exact .inr ⟨v, text, rfl, rfl⟩

/-- Both spans are read and the text is handed out, or one of them is refused. -/
theorem giveFile_cases (b : Bridge) (h : Heap) (na nl ta tl : UInt32) :
    (∃ v f, ((∃ g, (b.view.readText h na nl).2 = .error g) ∨
        ∃ g, ((b.view.renewed h).readText h ta tl).2 = .error g) ∧
      b.giveFile h na nl ta tl = ({ b with view := v }, .error f, [])) ∨
    (∃ v name text log, (b.view.readText h na nl).2 = .ok name ∧
      ((b.view.renewed h).readText h ta tl).2 = .ok text ∧
      b.giveFile h na nl ta tl = ({ b with
        view := v, deliveries := (b.exchange.give b.deliveries name text).1 }, .ok (), log)) := by
  unfold giveFile
  rw [← View.view_read b.view h na nl, ← View.view_readText]
  rcases b.view.readText h na nl with ⟨v, f | name⟩
  · exact .inl ⟨v, f, .inl ⟨f, rfl⟩, rfl⟩
  · simp only
    rcases v.readText h ta tl with ⟨w, f | text⟩
    · exact .inl ⟨w, f, .inr ⟨f, rfl⟩, rfl⟩
    · exact .inr ⟨w, name, text, _, rfl, rfl, rfl⟩

theorem log_error_iff (hc : b.view.Coherent h) (hs : b.view.Served h) (level : GuestLevel)
    (address length : UInt32) :
    (∃ f, (b.log h level address length).2.1 = .error f) ↔
      b.view.Illegible h address length ∨ b.view.Overlooked h address.toNat length.toNat := by
  rw [← View.readText_error_iff hc hs]
  obtain ⟨v, f, hr, e⟩ | ⟨v, text, hr, e⟩ := log_cases b h level address length <;> rw [e, hr] <;> simp

theorem giveFile_error_iff (hc : b.view.Coherent h) (hs : b.view.Served h) (na nl ta tl : UInt32) :
    (∃ f, (b.giveFile h na nl ta tl).2.1 = .error f) ↔
      (b.view.Illegible h na nl ∨ b.view.Overlooked h na.toNat nl.toNat) ∨
        (b.view.Illegible h ta tl ∨ b.view.Overlooked h ta.toNat tl.toNat) := by
  have hb := View.binding_renewed b.view h
  rw [← View.readText_error_iff hc hs, View.illegible_congr hb.symm,
    View.overlooked_congr hb.symm ta.toNat, ← View.readText_error_iff hc.renewed (hs.congr hb)]
  obtain ⟨v, f, hbad, e⟩ | ⟨v, name, text, log, hname, htext, e⟩ := giveFile_cases b h na nl ta tl
  · rw [e]
    exact ⟨fun _ => hbad, fun _ => ⟨f, rfl⟩⟩
  · rw [e, hname, htext]
    simp

theorem importFile_error_iff (hs : View.Sound (b.view, h)) (hserved : b.view.Served h)
    (dest : UInt32) :
    (∃ f, (b.importFile h dest).2.2.1 = .error f) ↔
      b.exchange.pending.isSome ∧ (b.view.Outside h dest.toNat b.exchange.length.toNat ∨
        b.view.Overlooked h dest.toNat b.exchange.length.toNat) := by
  cases hp : b.exchange.pending with
  | none =>
      rw [(importFile_nothing hp h dest).2.2]
      simp
  | some p =>
      simp only [Option.isSome_some, true_and]
      rcases hserved with hb | ⟨i, m, hb, hm, hread⟩
      · have herror : (b.importFile h dest).2.2.1 = .error .unbound := by
          simp [importFile, Exchange.consume, hp, View.write, View.revalidate, hb]
        exact ⟨fun _ => .inl (.inl hb), fun _ => ⟨_, herror⟩⟩
      · rw [View.outside_or_overlooked_iff hb hm, ← Nat.not_le,
          ← (importFile_readable hs hp hb hm hread dest).1]
        cases (b.importFile h dest).2.2.1 <;> simp

theorem importFile_silent {dest : UInt32} {f : Fault}
    (hf : (b.importFile h dest).2.2.1 = .error f) : (b.importFile h dest).2.2.2 = [] := by
  unfold importFile at hf ⊢
  obtain ⟨v, h', g, e⟩ | ⟨p, v, h', -, -, e⟩ :=
    Exchange.consume_outcome b.exchange b.view h dest
  · rw [e] at hf ⊢
    cases g with
    | notReady stage => cases hf
    | _ => rfl
  · rw [e] at hf
    cases hf

end answers

/-- **A refused call** leaves everything as it was. -/
theorem untouched_of_error {s : Bridge × Heap} (hc : s.1.view.Coherent s.2) {c : Call} {f : Fault}
    (hf : answer s c = .error f) : Untouched s c := by
  cases c with
  | log level address length =>
      simp only [answer] at hf
      obtain ⟨v, g, -, e⟩ | ⟨v, text, -, e⟩ := log_cases s.1 s.2 level address length
      · constructor <;> simp only [act, records, e]
      · rw [e] at hf
        cases hf
  | giveFile na nl ta tl =>
      simp only [answer] at hf
      obtain ⟨v, g, -, e⟩ | ⟨v, name, text, log, -, -, e⟩ := giveFile_cases s.1 s.2 na nl ta tl
      · constructor <;> simp only [act, records, e]
      · rw [e] at hf
        cases hf
  | importFile dest =>
      obtain ⟨hheap, hexchange⟩ := importFile_error hc hf
      have hsilent := importFile_silent hf
      refine ⟨hexchange, ?_, ?_, ?_, hheap, hsilent⟩ <;> simp only [act, importFile_fst]
  | _ => cases hf

/-- **A call is refused** exactly when it passes a bad span or one that is overlooked. -/
theorem answer_error_iff {s : Bridge × Heap} (hs : View.Sound (s.1.view, s.2))
    (hserved : s.1.view.Served s.2) (c : Call) :
    (∃ f, answer s c = .error f) ↔ c.Fatal s ∨ c.Overlooked s := by
  cases c with
  | log level address length => exact log_error_iff hs.coherent hserved level address length
  | importFile dest =>
      simp only [Call.Fatal, Call.Overlooked, ← and_or_left]
      exact importFile_error_iff hs hserved dest
  | giveFile na nl ta tl =>
      simp only [Call.Fatal, Call.Overlooked]
      rw [or_or_or_comm]
      exact giveFile_error_iff hs.coherent hserved na nl ta tl
  | _ => simp [answer, Call.Fatal, Call.Overlooked]

theorem Call.not_overlooked {s : Bridge × Heap}
    (hsmall : ∀ live, s.1.view.live? s.2 = some live → live.size < UInt32.size) (c : Call) :
    ¬ c.Overlooked s := by
  cases c <;> simp [Call.Overlooked, View.not_overlooked hsmall]

/-- A message that is not refused is one record of the guest with the live bytes of its span. -/
theorem records_log {s : Bridge × Heap} (hc : s.1.view.Coherent s.2) {level : GuestLevel}
    {address length : UInt32} (hok : answer s (.log level address length) = .ok ()) :
    ∃ r live, records s (.log level address length) = [r] ∧ r.speaker = "guest" ∧
      s.1.view.live? s.2 = some live ∧
      Utf8.encode r.message = live.slice address.toNat length.toNat := by
  simp only [answer] at hok
  obtain ⟨v, f, -, e⟩ | ⟨v, text, htext, e⟩ := log_cases s.1 s.2 level address length
  · rw [e] at hok
    cases hok
  · obtain ⟨live, hlive, hbytes⟩ := View.encode_readText hc htext
    refine ⟨messageRecord s.1.scope level text, live, by simp only [records, e], ?_, hlive, ?_⟩
    · cases level <;> rfl
    · cases level <;> exact hbytes

/-- What an export comes to: the live bytes of both spans are handed to the outlet, as the name and
the content of one artifact.  Each recipient of the outlet is called with it once, in turn, and
nothing else is done; without an outlet nothing is handed over. -/
structure Exported (s : Bridge × Heap) (na nl ta tl : UInt32) (name : String) (live : Bytes) :
    Prop where
  seen : s.1.view.live? s.2 = some live
  named : Utf8.encode name = live.slice na.toNat nl.toNat
  delivered : ∀ outlet, s.1.exchange.outlet = some outlet →
    let artifact : Artifact :=
      { name, content := live.slice ta.toNat tl.toNat, createdAt := s.1.exchange.now }
    let noted := (outlet.deliver (Outlet.noting Recipient.receive) artifact (s.1.deliveries, [])).1
    (act s (.giveFile na nl ta tl)).1.deliveries = noted.1 ∧
      (noted.2.map fun c => (c.recipient, c.artifact)) = outlet.recipients.map (·, artifact)
  /-- A single recipient that does what it likes is called just once. -/
  called : ∀ f, s.1.exchange.outlet = some (.single (.other f)) →
    (act s (.giveFile na nl ta tl)).1.deliveries = (f s.1.deliveries
      { name, content := live.slice ta.toNat tl.toNat, createdAt := s.1.exchange.now }).1
  dropped : s.1.exchange.outlet = none →
    (act s (.giveFile na nl ta tl)).1.deliveries = s.1.deliveries

theorem exported_giveFile {s : Bridge × Heap} (hc : s.1.view.Coherent s.2) {na nl ta tl : UInt32}
    (hok : answer s (.giveFile na nl ta tl) = .ok ()) :
    ∃ name live, Exported s na nl ta tl name live := by
  simp only [answer] at hok
  obtain ⟨v, f, -, e⟩ | ⟨v, name, text, log, hname, htext, e⟩ := giveFile_cases s.1 s.2 na nl ta tl
  · rw [e] at hok
    cases hok
  · obtain ⟨live, hlive, hnamed⟩ := View.encode_readText hc hname
    obtain ⟨live', hlive', htexted⟩ := View.encode_readText hc.renewed htext
    rw [View.live?_congr (View.binding_renewed s.1.view s.2), hlive] at hlive'
    obtain rfl := Option.some.inj hlive'
    have hgiven : (act s (.giveFile na nl ta tl)).1.deliveries
        = (s.1.exchange.give s.1.deliveries name text).1 := by
      simp only [act, e]
    refine ⟨name, live, hlive, hnamed, ?_, ?_, ?_⟩
    · intro outlet ho artifact noted
      have hnoted := Outlet.noted_deliver Recipient.receive artifact outlet s.1.deliveries
      obtain ⟨new, hnew, hcalls, -⟩ := hnoted.calls
      refine ⟨?_, ?_⟩
      · rw [hgiven, Exchange.deliveries_give_some ho, Exchange.artifact, htexted]
        exact hnoted.state.symm
      · rw [← hcalls]
        exact congrArg _ hnew
    · intro f ho
      rw [hgiven, Exchange.deliveries_give_some ho, Exchange.artifact, htexted]
      rfl
    · intro ho
      rw [hgiven, Exchange.deliveries_give_none ho]

/-- **A bridge in use refuses exactly the calls that pass a bad span**, as long as the memory it looks
at can be read and has less than `2 ^ 32` bytes: messages and exports with an illegible span, and
imports of a pending file that does not fit behind `dest`.  Of a memory of `2 ^ 32` bytes it overlooks
all, and refuses what is not empty there as well.  A refused call has changed nothing.  A message that
is not refused is one record of the guest with the bytes of its span as its text, and an export that is
not refused is one call of each recipient of the outlet, the one that the bridge was given, with the
bytes of its spans. -/
theorem refused_iff_fatal (o : BridgeOptions) (calls : List Call)
    (hserved : (run (new o, {}) calls).1.view.Served (run (new o, {}) calls).2) :
    let s := run (new o, {}) calls
    s.1.exchange.outlet = o.files.outlet ∧
    (∀ c, (∃ f, answer s c = .error f) ↔ c.Fatal s ∨ c.Overlooked s) ∧
    ((∀ live, s.1.view.live? s.2 = some live → live.size < UInt32.size) →
      ∀ c, (∃ f, answer s c = .error f) ↔ c.Fatal s) ∧
    (∀ c f, answer s c = .error f → Untouched s c) ∧
    (∀ level address length, answer s (.log level address length) = .ok () →
      ∃ r live, records s (.log level address length) = [r] ∧ r.speaker = "guest" ∧
        s.1.view.live? s.2 = some live ∧
        Utf8.encode r.message = live.slice address.toNat length.toNat) ∧
    (∀ na nl ta tl, answer s (.giveFile na nl ta tl) = .ok () →
      ∃ name live, Exported s na nl ta tl name live) := by
  intro s
  have hsound : View.Sound (s.1.view, s.2) := sound_run o calls
  have hiff : ∀ c, (∃ f, answer s c = .error f) ↔ c.Fatal s ∨ c.Overlooked s :=
    fun c => answer_error_iff hsound hserved c
  refine ⟨?_, hiff, ?_, ?_, ?_, ?_⟩
  · obtain ⟨cs, hcs⟩ := exchange_run (new o, {}) calls
    rw [hcs]
    exact Exchange.outlet_after _ cs
  · intro hsmall c
    rw [hiff, or_iff_left (Call.not_overlooked hsmall c)]
  · intro c f hf
    exact untouched_of_error hsound.coherent hf
  · intro level address length hok
    exact records_log hsound.coherent hok
  · intro na nl ta tl hok
    exact exported_giveFile hsound.coherent hok

theorem eq_ok_of_not_error {r : Except Fault Unit} (h : ¬ ∃ f, r = .error f) : r = .ok () := by
  cases r with
  | ok u => rfl
  | error f => exact absurd ⟨f, rfl⟩ h

/-- In a memory of three bytes the first two are a message and the name of an artifact, which each of
two recipients is handed.  All three are no message because the last is no character, and the bytes
behind the end cannot be exported. -/
theorem refused_beyond_three_bytes :
    let outlet : Outlet Recipient := .fan [.single (.refusal (.plain "full")), .single .collection]
    let o : BridgeOptions := { files := { outlet := some outlet } }
    let calls : List Call := [.memory (.allocate #[104, 105, 255]), .bind (.memory 0)]
    let s := run (new o, {}) calls
    (∃ r live, records s (.log .info 0 2) = [r] ∧ r.speaker = "guest" ∧
      s.1.view.live? s.2 = some live ∧ Utf8.encode r.message = live.slice 0 2) ∧
    answer s (.giveFile 0 2 1 1) = .ok () ∧
    (act s (.giveFile 0 2 1 1)).1.deliveries.collected = [{ name := "hi", content := #[105] }] ∧
    (∃ f, answer s (.giveFile 0 2 2 2) = .error f) ∧
    Untouched s (.log .info 0 3) := by
  intro outlet o calls s
  have hmemory : s.2.memories[0]? = some ⟨0, true⟩ := rfl
  have hlive : s.1.view.live? s.2 = some #[104, 105, 255] := rfl
  have hserved : s.1.view.Served s.2 := .inr ⟨0, _, rfl, hmemory, rfl⟩
  have hsmall : ∀ live, s.1.view.live? s.2 = some live → live.size < UInt32.size := by
    rintro live hlive'
    obtain rfl := Option.some.inj (hlive.symm.trans hlive')
    decide
  obtain ⟨-, -, hfatal, huntouched, hlog, hexport⟩ := refused_iff_fatal o calls hserved
  replace hfatal := hfatal hsmall
  have hlegible := fun address length =>
    (View.legible_iff rfl hmemory : ¬ s.1.view.Illegible s.2 address length ↔ _)
  -- The first two bytes are the text `hi`, and the second alone is the text `i`.
  have hname : ¬ s.1.view.Illegible s.2 0 2 := (hlegible 0 2).mpr ⟨by decide, ['h', 'i'], rfl⟩
  have htext : ¬ s.1.view.Illegible s.2 1 1 := (hlegible 1 1).mpr ⟨by decide, ['i'], rfl⟩
  have hbeyond : s.1.view.Illegible s.2 2 2 := (View.illegible_iff rfl hmemory).mpr (.inl (by decide))
  have hgiven : answer s (.giveFile 0 2 1 1) = .ok () :=
    eq_ok_of_not_error fun h => ((hfatal _).mp h).elim hname htext
  refine ⟨hlog _ 0 2 ?_, hgiven, ?_, (hfatal _).mpr (.inr hbeyond), ?_⟩
  · exact eq_ok_of_not_error fun h => hname ((hfatal _).mp h)
  · obtain ⟨name, live, hseen, hnamed, hdelivered, -, -⟩ := hexport 0 2 1 1 hgiven
    obtain rfl := Option.some.inj (hlive.symm.trans hseen)
    have hhi : name = "hi" := Utf8.encode_inj (hnamed.trans (by decide +kernel))
    subst hhi
    rw [(hdelivered outlet rfl).1]
    rfl
  · have hdecode : Utf8.decode [104, 105, 255] = .error 2 := by decide +kernel
    have hbad : ¬ Utf8.WellFormed [104, 105, 255] := by
      rw [Utf8.wellFormed_iff, hdecode]
      rintro ⟨cs, hcs⟩
      cases hcs
    obtain ⟨f, hf⟩ := (hfatal (.log .info 0 3)).mpr
      ((View.illegible_iff rfl hmemory).mpr (.inr hbad))
    exact huntouched _ f hf

/-- Of a memory of `2 ^ 32` bytes the first is a message, and it is refused. -/
theorem first_byte_of_largest_memory_refused :
    let memory : Bytes := Array.replicate UInt32.size 0
    let s := run (new {}, {}) [.memory (.allocate memory), .bind (.memory 0)]
    s.1.view.Served s.2 ∧ s.1.view.live? s.2 = some memory ∧ memory.size = UInt32.size ∧
      ¬ Call.Fatal s (.log .info 0 1) ∧ ∃ f, answer s (.log .info 0 1) = .error f := by
  intro memory
  have hsize : memory.size = UInt32.size := Array.size_replicate
  have hfirst : (memory.slice 0 1).toList = [0] := by
    have hone : min 1 UInt32.size = 1 := by decide
    simp [memory, Bytes.slice, hone]
  -- Only the length and the first byte of the memory are used, and its bytes are not to be computed.
  clear_value memory
  intro s
  have hmemory : s.2.memories[0]? = some ⟨0, true⟩ := rfl
  have hserved : s.1.view.Served s.2 := .inr ⟨0, _, rfl, hmemory, rfl⟩
  have hlive : s.1.view.live? s.2 = some memory := rfl
  refine ⟨hserved, hlive, hsize, ?_, ?_⟩
  · refine (View.legible_iff rfl hmemory).mpr ⟨?_, ['\x00'], ?_⟩
    · have hbytes : (s.2.bytes 0).size = UInt32.size := hsize
      rw [hbytes]
      decide
    · exact hfirst.trans (by decide +kernel)
  · rw [answer_error_iff (sound_run {} _) hserved]
    refine .inr ⟨memory, hlive, ?_, ?_⟩
    · rw [hsize, Nat.mod_self]
      decide
    · rw [hsize]
      decide

end Bridge
end GuestHost
