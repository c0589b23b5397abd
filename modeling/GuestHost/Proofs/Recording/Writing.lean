import GuestHost.Proofs.Memory.Heap
import GuestHost.Proofs.Mixer.Voices
import GuestHost.Recording

/-! # What a recording sends to its file

* **Data in a file.**  Data sent in two parts are the data sent at once
  (`Recording.patched_patched`), and data put over others of the same length replace them
  (`Recording.patched_between`).
* **One call.**  As long as the file takes data, a call sends what is missing of the header, then its
  samples and nothing else (`Recording.recorded`).  What stands behind them in the room, from earlier
  calls, does not matter (`Recording.bare_write`, `Recording.bare_capture`).
* **Calls** (`Recording.Call`) come to the same as one call with all their samples, or to nothing if
  none of them gets as far as sending (`Recording.bare_after`).
* **Obstacles.**  Where the file takes no data, what it holds stays as it is
  (`Recording.Stuck`), and the first call that sends anything fails
  (`Recording.faults_ne_nil_of_new`). -/

namespace GuestHost
namespace Recording

/-! ### Data in a file -/

theorem size_resize (b : Bytes) (n : Nat) : (b.resize n).size = n := by
  simp only [Bytes.resize, Array.size_append, Array.size_extract, Array.size_replicate]
  omega

theorem getElem?_resize (b : Bytes) {n i : Nat} (hi : i < n) :
    (b.resize n)[i]? = some (b[i]?.getD 0) := by
  simp only [Bytes.resize, Array.getElem?_append, Array.getElem?_extract, Array.size_extract,
    Array.getElem?_replicate, Nat.sub_zero, Nat.zero_add]
  rcases Nat.lt_or_ge i b.size with hb | hb
  · rw [if_pos (by omega), if_pos (by omega), Array.getElem?_eq_getElem hb, Option.getD_some]
  · rw [if_neg (by omega), if_pos (by omega), Array.getElem?_eq_none hb, Option.getD_none]

theorem patched_end (b data : Bytes) : patched b b.size data = b ++ data := by
  unfold patched
  by_cases hempty : data.isEmpty
  · rw [if_pos hempty, Array.isEmpty_iff.mp hempty, Array.append_empty]
  · rw [if_neg hempty, if_pos rfl]

theorem getElem?_patched (b : Bytes) (start : Nat) {data : Bytes} (h : 0 < data.size) (i : Nat) :
    (patched b start data)[i]? =
      if i < start then some (b[i]?.getD 0)
      else if i < start + data.size then data[i - start]? else b[i]? := by
  have hne : ¬ data.isEmpty := by
    rw [Array.isEmpty_iff_size_eq_zero]
    omega
  have hin : ∀ {j}, j < b.size → b[j]? = some (b[j]?.getD 0) := fun hj => by
    rw [Array.getElem?_eq_getElem hj, Option.getD_some]
  unfold patched
  rw [if_neg hne]
  by_cases hend : start = b.size
  · subst hend
    rw [if_pos rfl, Array.getElem?_append]
    split_ifs with hi
    · exact hin hi
    · rfl
    · rw [Array.getElem?_eq_none (by omega), Array.getElem?_eq_none (by omega)]
  rw [if_neg hend]
  by_cases hshort : b.size < start + data.size
  · rw [if_pos hshort, Bytes.getElem?_overwrite _ _ _ _ (Nat.le_of_eq (size_resize b _).symm)]
    split_ifs <;> try omega
    · rfl
    · exact getElem?_resize b (by omega)
    · rw [Array.getElem?_eq_none (by rw [size_resize]; omega), Array.getElem?_eq_none (by omega)]
  · rw [if_neg hshort, Bytes.getElem?_overwrite _ _ _ _ (Nat.not_lt.mp hshort)]
    split_ifs <;> try omega
    · rfl
    · exact hin (by omega)
    · rfl

theorem patched_patched (b : Bytes) (start : Nat) (x y : Bytes) :
    patched (patched b start x) (start + x.size) y = patched b start (x ++ y) := by
  rcases Nat.eq_zero_or_pos x.size with hx | hx
  · rw [Array.eq_empty_of_size_eq_zero hx, Array.empty_append]
    rfl
  rcases Nat.eq_zero_or_pos y.size with hy | hy
  · rw [Array.eq_empty_of_size_eq_zero hy, Array.append_empty]
    rfl
  apply Array.ext_getElem?
  intro i
  have hxy : 0 < (x ++ y).size := by
    rw [Array.size_append]
    omega
  rw [getElem?_patched _ _ hy, getElem?_patched _ _ hx, getElem?_patched _ _ hxy, Array.size_append,
    Array.getElem?_append]
  rcases Nat.lt_or_ge i start with hi | hi
  · rw [if_pos (by omega), if_pos hi, if_pos hi, Option.getD_some]
  rcases Nat.lt_or_ge i (start + x.size) with hx' | hx'
  · have hmem : i - start < x.size := by omega
    rw [if_pos hx', if_neg (by omega), if_pos hx', if_neg (by omega), if_pos (by omega),
      if_pos hmem, Array.getElem?_eq_getElem hmem, Option.getD_some]
  · have hbefore : ¬ i < start := Nat.not_lt.mpr hi
    have hpast : ¬ i < start + x.size := Nat.not_lt.mpr hx'
    have hmem : ¬ i - start < x.size := by omega
    rw [if_neg hpast, if_neg hpast, if_neg hbefore, if_neg hbefore, if_neg hmem, Nat.sub_sub,
      Nat.add_assoc]

theorem overwrite_between {x y : Bytes} (a c : Bytes) (h : x.size = y.size) :
    Bytes.overwrite (a ++ x ++ c) a.size y = a ++ y ++ c := by
  have hbefore : (a ++ x ++ c).extract 0 a.size = a := by
    rw [Array.append_assoc, Array.extract_append_left, Array.extract_size]
  have hafter : (a ++ x ++ c).extract (a.size + x.size) (a ++ x ++ c).size = c := by
    rw [← Array.size_append]
    simp
  have hn : min y.size ((a ++ x ++ c).size - a.size) = x.size := by
    simp only [Array.size_append]
    omega
  rw [Bytes.overwrite, hn, hbefore, hafter, h, Array.extract_size]

theorem patched_between {x y : Bytes} (a c : Bytes) (h : x.size = y.size) :
    patched (a ++ x ++ c) a.size y = a ++ y ++ c := by
  rcases Nat.eq_zero_or_pos y.size with hy | hy
  · rw [Array.eq_empty_of_size_eq_zero hy, Array.eq_empty_of_size_eq_zero (h.trans hy)]
    rfl
  have hne : ¬ y.isEmpty := by
    rw [Array.isEmpty_iff_size_eq_zero]
    omega
  have hsize : (a ++ x ++ c).size = a.size + y.size + c.size := by
    simp only [Array.size_append, h]
  unfold patched
  rw [if_neg hne, if_neg (by omega), if_neg (by omega), overwrite_between a c h]

/-! ### Headers and samples -/

@[simp] theorem size_ofWord (w : UInt32) : (Bytes.ofWord w).size = 4 := rfl

@[simp] theorem size_pair (n : Int) : (pair n).size = 2 := rfl

theorem size_riff : (Utf8.encode "RIFF").size = 4 := by decide +kernel

theorem size_dataMark : dataMark.size = 4 := by decide +kernel

theorem size_waveFormat : (Utf8.encode "WAVEfmt ").size = 8 := by decide +kernel

theorem size_header (rate : Int) : (header rate).size = 36 := by
  simp only [header, Array.size_append, size_ofWord, size_pair, size_riff, size_waveFormat]

theorem encode_append (values others : Array Int) :
    encode (values ++ others) = encode values ++ encode others :=
  Array.flatMap_append

theorem toList_encode (values : Array Int) :
    (encode values).toList = values.toList.flatMap fun v => (pair v).toList :=
  Array.toList_flatMap

theorem size_encode (values : Array Int) : (encode values).size = 2 * values.size := by
  rw [← Array.length_toList, toList_encode, List.length_flatMap]
  simp [pair, Nat.mul_comm, List.map_const']

/-! ### Calls on a recording whose file takes data -/

/-- What of the header goes out before the next samples. -/
def headerDue (r : Recording) : Bytes :=
  if r.headerTried ∨ r.sent ≠ 0 then #[] else header r.rate

/-- What announces the next samples. -/
def markDue (r : Recording) : Bytes :=
  if r.dataStarted then #[] else dataMark ++ Bytes.ofWord unknownSize

/-- The recording with data sent. -/
def sending (r : Recording) (b : Bytes) : Recording :=
  { r with
    bytes := patched r.bytes r.position b
    position := r.position + b.size
    sent := r.sent + b.size }

/-- The recording with its header sent. -/
def headed (r : Recording) : Recording := { r.sending r.headerDue with headerTried := true }

/-- The recording with the samples announced. -/
def marked (r : Recording) : Recording :=
  { r.sending r.markDue with
    dataStarted := true
    sizeAt := if r.dataStarted then r.sizeAt else r.sent + 4 }

/-- The recording with samples sent, after what has to come before them. -/
def recorded (r : Recording) (ss : Array Float32) : Recording :=
  { r.headed.marked.sending (encode (ss.map quantise)) with
    encoded := r.encoded + ss.size
    samples := r.samples + ss.size }

/-- The recording without its room. -/
def bare (r : Recording) : Recording := { r with room := {} }

theorem obstacle?_bare (r : Recording) : r.bare.obstacle? = r.obstacle? := rfl

theorem obstacle?_congr {r r' : Recording} (hopen : r'.isOpen = r.isOpen) (hfull : r'.full = r.full) :
    r'.obstacle? = r.obstacle? := by
  rw [obstacle?, obstacle?, hopen, hfull]

theorem obstacle?_headed (r : Recording) : r.headed.obstacle? = r.obstacle? :=
  obstacle?_congr (by simp only [headed, sending]) (by simp only [headed, sending])

theorem obstacle?_marked (r : Recording) : r.marked.obstacle? = r.obstacle? :=
  obstacle?_congr (by simp only [marked, sending]) (by simp only [marked, sending])

theorem obstacle?_recorded (r : Recording) (ss : Array Float32) :
    (r.recorded ss).obstacle? = r.obstacle? :=
  obstacle?_congr (by simp only [recorded, marked, headed, sending])
    (by simp only [recorded, marked, headed, sending])

theorem sending_empty (r : Recording) : r.sending #[] = r := rfl

theorem sending_sending (r : Recording) (x y : Bytes) :
    (r.sending x).sending y = r.sending (x ++ y) := by
  simp only [sending, patched_patched, Array.size_append, Nat.add_assoc]

theorem headed_of_tried {r : Recording} (h : r.headerTried) : r.headed = r := by
  rw [headed, headerDue, if_pos (.inl h), sending_empty, ← h]

theorem marked_of_started {r : Recording} (h : r.dataStarted) : r.marked = r := by
  rw [marked, markDue, if_pos h, if_pos h, sending_empty, ← h]

theorem send_of_open {r : Recording} (h : r.obstacle? = none) (b : Bytes) :
    r.send b = ({ r.sending b with sent := r.sent }, none) := by
  unfold send
  rw [h]
  rfl

theorem startHeader_of_open {r : Recording} (h : r.obstacle? = none) (hnew : r.headerTried = false) :
    r.startHeader = (r.headed, none) := by
  by_cases hsent : r.sent = 0
  · have hdue : r.headerDue = header r.rate := by simp [headerDue, hnew, hsent]
    have hsend := send_of_open (r := { r with headerTried := true }) h (header r.rate)
    simp only [startHeader, hsend, headed, hdue]
    simp [sending, hsent]
  · have hdue : r.headerDue = #[] := by simp [headerDue, hsent]
    simp [startHeader, hsent, headed, hdue, sending_empty]

theorem startData_of_open {r : Recording} (h : r.obstacle? = none) (hnew : r.dataStarted = false) :
    r.startData = (r.marked, none) := by
  have hdue : r.markDue = dataMark ++ Bytes.ofWord unknownSize := by simp [markDue, hnew]
  have hsize : (dataMark ++ Bytes.ofWord unknownSize).size = 8 := by
    rw [Array.size_append, size_dataMark, size_ofWord]
  simp only [startData, send_of_open h, marked, hdue, hnew]
  simp only [sending, hsize]
  rfl

theorem sendSamples_of_open {r : Recording} (h : r.obstacle? = none) (ss : Array Float32) :
    r.sendSamples (ss.map quantise) = ({ r.recorded ss with samples := r.samples }, none) := by
  have hheader : (if r.headerTried then (r, none) else r.startHeader) = (r.headed, none) := by
    split_ifs with htried
    · rw [headed_of_tried htried]
    · exact startHeader_of_open h (Bool.eq_false_iff.mpr htried)
  have hmark : (if r.headed.dataStarted then (r.headed, none) else r.headed.startData) =
      (r.headed.marked, none) := by
    split_ifs with hstarted
    · rw [marked_of_started hstarted]
    · exact startData_of_open ((obstacle?_headed r).trans h) (Bool.eq_false_iff.mpr hstarted)
  have hmarked : r.headed.marked.obstacle? = none := by
    rw [obstacle?_marked, obstacle?_headed, h]
  have hopen (encoded : Nat) : ({ r.headed.marked with encoded } : Recording).obstacle? = none :=
    (obstacle?_congr (r := r.headed.marked) rfl rfl).trans hmarked
  simp only [sendSamples, hheader, hmark]
  rw [send_of_open (hopen _)]
  simp only [recorded, sending, marked, headed, Array.size_map]

/-- The samples of a call are what is quantised and sent, whatever stands behind them in the room. -/
theorem write_eq (r : Recording) (ss : Array Float32) :
    ∃ room, r.write ss =
      match ({ r with room } : Recording).sendSamples (ss.map quantise) with
      | (r, some f) => (r, some (.within "failed to write samples" f))
      | (r, none) => ({ r with samples := r.samples + ss.size }, none) := by
  have hquantised := Room.extract_fill (Room.reserve r.room.quantised ss.size 0) (ss.map quantise)
  rw [Array.size_map] at hquantised
  let room : Room := { r.room with
    quantised := Room.fill (Room.reserve r.room.quantised ss.size 0) (ss.map quantise) }
  refine ⟨room, ?_⟩
  rcases hsend : ({ r with room } : Recording).sendSamples (ss.map quantise) with ⟨r', _ | f⟩
  all_goals
    simp only [write, hquantised, room] at hsend ⊢
    rw [hsend]

/-- The samples that were rendered are what is written, whatever stands behind them in the room. -/
theorem capture_eq (r : Recording) (m : Mixer) {n : Int} (hn : 0 < n) :
    ∃ room, r.capture m n =
      ((({ r with room } : Recording).write (m.render n.toNat).2).1, (m.render n.toNat).1,
        (({ r with room } : Recording).write (m.render n.toNat).2).2) := by
  have hrendered := Room.extract_fill (Room.reserve r.room.rendered n.toNat 0) (m.render n.toNat).2
  rw [Mixer.size_render] at hrendered
  refine ⟨{ r.room with
    rendered := Room.fill (Room.reserve r.room.rendered n.toNat 0) (m.render n.toNat).2 }, ?_⟩
  rw [capture, if_neg (Int.not_le.mpr hn)]
  simp only [hrendered]

theorem mixer_capture (r : Recording) (m : Mixer) (n : Int) :
    (r.capture m n).2.1 = (m.render n.toNat).1 := by
  unfold capture
  split_ifs with hn
  · rw [Int.toNat_of_nonpos hn]
    rfl
  · rfl

theorem bare_write {r : Recording} (h : r.obstacle? = none) (ss : Array Float32) :
    (r.write ss).1.bare = r.bare.recorded ss ∧ (r.write ss).2 = none := by
  obtain ⟨room, hwrite⟩ := write_eq r ss
  have hsend := sendSamples_of_open (r := { r with room }) h ss
  rw [hwrite, hsend]
  exact ⟨rfl, rfl⟩

theorem bare_capture {r : Recording} (h : r.obstacle? = none) (m : Mixer) {n : Int} (hn : 0 < n) :
    (r.capture m n).1.bare = r.bare.recorded (m.render n.toNat).2 ∧ (r.capture m n).2.2 = none := by
  obtain ⟨room, hcapture⟩ := capture_eq r m hn
  have hwrite := bare_write (r := { r with room }) h (m.render n.toNat).2
  rw [hcapture]
  exact hwrite

/-! ### Calls one after the other -/

theorem recorded_recorded (r : Recording) (ss ts : Array Float32) :
    (r.recorded ss).recorded ts = r.recorded (ss ++ ts) := by
  have hheaded : (r.recorded ss).headed = r.recorded ss := headed_of_tried rfl
  have hmarked : (r.recorded ss).marked = r.recorded ss := marked_of_started rfl
  have hencode : encode ((ss ++ ts).map quantise) =
      encode (ss.map quantise) ++ encode (ts.map quantise) := by
    rw [Array.map_append, encode_append]
  rw [recorded, hheaded, hmarked]
  simp only [recorded, hencode, ← sending_sending, Array.size_append, ← Nat.add_assoc]
  rfl

/-- A call on a recording.  A mixer is captured in whatever state it is by then. -/
inductive Call
  | write (samples : Array Float32)
  | capture (m : Mixer) (n : Int)

/-- Whether the call gets as far as sending: a capture has to ask for samples. -/
def Call.Reaches : Call → Prop
  | .write _ => True
  | .capture _ n => 0 < n

instance : DecidablePred Call.Reaches
  | .write _ => inferInstanceAs (Decidable True)
  | .capture _ n => inferInstanceAs (Decidable (0 < n))

/-- The samples of a call. -/
def Call.samples : Call → Array Float32
  | .write ss => ss
  | .capture m n => (m.render n.toNat).2

/-- One call, with its failure. -/
def act (r : Recording) : Call → Recording × Option Fault
  | .write ss => r.write ss
  | .capture m n => ((r.capture m n).1, (r.capture m n).2.2)

/-- The recording after calls. -/
def after (r : Recording) (calls : List Call) : Recording := calls.foldl (fun r c => (r.act c).1) r

/-- The failures of calls. -/
def faults : Recording → List Call → List Fault
  | _, [] => []
  | r, c :: calls => (r.act c).2.toList ++ faults (r.act c).1 calls

/-- The samples of calls. -/
def samplesOf : List Call → Array Float32
  | [] => #[]
  | c :: calls => c.samples ++ samplesOf calls

theorem act_of_not_reaches (r : Recording) {c : Call} (h : ¬ c.Reaches) :
    r.act c = (r, none) ∧ c.samples = #[] := by
  cases c with
  | write ss => exact absurd trivial h
  | capture m n =>
      have hn : n ≤ 0 := Int.not_lt.mp h
      constructor
      · simp only [act, capture, if_pos hn]
      · rw [Call.samples, Int.toNat_of_nonpos hn]
        rfl

theorem bare_act {r : Recording} (h : r.obstacle? = none) {c : Call} (hc : c.Reaches) :
    (r.act c).1.bare = r.bare.recorded c.samples ∧ (r.act c).2 = none := by
  cases c with
  | write ss => exact bare_write h ss
  | capture m n => exact bare_capture h m hc

theorem samplesOf_of_none {calls : List Call} (h : ¬ ∃ c ∈ calls, c.Reaches) :
    samplesOf calls = #[] := by
  induction calls with
  | nil => rfl
  | cons c calls ih =>
      simp only [List.mem_cons, exists_eq_or_imp, not_or] at h
      rw [samplesOf, ih h.2, (act_of_not_reaches default h.1).2, Array.append_empty]

theorem after_cons (r : Recording) (c : Call) (calls : List Call) :
    r.after (c :: calls) = (r.act c).1.after calls :=
  rfl

theorem after_of_none {calls : List Call} (h : ¬ ∃ c ∈ calls, c.Reaches) (r : Recording) :
    r.after calls = r := by
  induction calls with
  | nil => rfl
  | cons c calls ih =>
      simp only [List.mem_cons, exists_eq_or_imp, not_or] at h
      rw [after_cons, (act_of_not_reaches r h.1).1, ih h.2]

/-- **Calls** come to nothing as long as none gets as far as sending, and otherwise to one call with
all their samples. -/
theorem bare_after {r : Recording} (h : r.obstacle? = none) (calls : List Call) :
    (r.after calls).bare =
      (if ∃ c ∈ calls, c.Reaches then r.bare.recorded (samplesOf calls) else r.bare) ∧
    r.faults calls = [] := by
  induction calls generalizing r with
  | nil => simp [after, faults]
  | cons c calls ih =>
      by_cases hc : c.Reaches
      · obtain ⟨hbare, hfault⟩ := bare_act h hc
        have hopen : (r.act c).1.obstacle? = none := by
          rw [← obstacle?_bare, hbare, obstacle?_recorded, obstacle?_bare, h]
        obtain ⟨hafter, hfaults⟩ := ih hopen
        have hreach : ∃ d ∈ c :: calls, d.Reaches := ⟨c, List.mem_cons_self, hc⟩
        rw [after_cons, hafter, faults, hfaults, hfault, if_pos hreach, hbare,
          samplesOf, recorded_recorded]
        split_ifs with hrest
        · exact ⟨rfl, rfl⟩
        · rw [samplesOf_of_none hrest, Array.append_empty]
          exact ⟨rfl, rfl⟩
      · obtain ⟨hact, hsamples⟩ := act_of_not_reaches r hc
        obtain ⟨hafter, hfaults⟩ := ih h
        simp only [List.mem_cons, exists_eq_or_imp, hc, false_or]
        rw [after_cons, faults, samplesOf, hact, hsamples, hafter, hfaults, Array.empty_append]
        exact ⟨rfl, rfl⟩

/-! ### Calls on a recording whose file takes no data -/

/-- The second recording holds what the first holds and takes data as little. -/
structure Stuck (r r' : Recording) : Prop where
  bytes : r'.bytes = r.bytes
  isOpen : r'.isOpen = r.isOpen
  full : r'.full = r.full

theorem Stuck.trans {r r' r'' : Recording} (h : Stuck r r') (h' : Stuck r' r'') : Stuck r r'' :=
  ⟨h'.bytes.trans h.bytes, h'.isOpen.trans h.isOpen, h'.full.trans h.full⟩

theorem stuck_room (r : Recording) (room : Room) : Stuck r { r with room } := ⟨rfl, rfl, rfl⟩

theorem Stuck.obstacle? {r r' : Recording} (h : Stuck r r') : r'.obstacle? = r.obstacle? :=
  obstacle?_congr h.isOpen h.full

section

variable {r : Recording} {why : Errno} (h : r.obstacle? = some why)

include h

theorem send_of_obstacle (b : Bytes) : ∃ f, r.send b = (r, f) := by
  rw [send, h]
  exact ⟨_, rfl⟩

theorem stuck_startHeader : Stuck r r.startHeader.1 := by
  obtain ⟨f, hsend⟩ := send_of_obstacle (r := { r with headerTried := true }) h (header r.rate)
  simp only [startHeader, hsend]
  by_cases hsent : r.sent ≠ 0
  · rw [if_pos hsent]
    exact ⟨rfl, rfl, rfl⟩
  · rw [if_neg hsent]
    cases f <;> exact ⟨rfl, rfl, rfl⟩

theorem stuck_startData : Stuck r r.startData.1 := by
  obtain ⟨f, hsend⟩ := send_of_obstacle h (dataMark ++ Bytes.ofWord unknownSize)
  simp only [startData, hsend]
  cases f <;> exact ⟨rfl, rfl, rfl⟩

theorem stuck_sendSamples (values : Array Int) : Stuck r (r.sendSamples values).1 := by
  have hheader : Stuck r (if r.headerTried then (r, none) else r.startHeader).1 := by
    split_ifs
    · exact ⟨rfl, rfl, rfl⟩
    · exact stuck_startHeader h
  unfold sendSamples
  generalize (if r.headerTried then (r, none) else r.startHeader) = headed at hheader ⊢
  obtain ⟨headed, f⟩ := headed
  cases f with
  | some f => exact hheader
  | none =>
      have hdata : Stuck headed (if headed.dataStarted then (headed, none) else headed.startData).1 := by
        split_ifs
        · exact ⟨rfl, rfl, rfl⟩
        · exact stuck_startData (hheader.obstacle?.trans h)
      simp only []
      generalize (if headed.dataStarted then (headed, none) else headed.startData) = marked at hdata ⊢
      obtain ⟨marked, f⟩ := marked
      have hmarked := hheader.trans hdata
      cases f with
      | some f => exact hmarked
      | none =>
          obtain ⟨f, hsend⟩ := send_of_obstacle
            (r := { marked with encoded := marked.encoded + values.size })
            (hmarked.obstacle?.trans h) (encode values)
          simp only [hsend]
          cases f <;> exact ⟨hmarked.bytes, hmarked.isOpen, hmarked.full⟩

theorem stuck_write (ss : Array Float32) : Stuck r (r.write ss).1 := by
  obtain ⟨room, hwrite⟩ := write_eq r ss
  have hsend : Stuck r (({ r with room } : Recording).sendSamples (ss.map quantise)).1 :=
    (stuck_room r room).trans (stuck_sendSamples ((stuck_room r room).obstacle?.trans h) _)
  rw [hwrite]
  generalize ({ r with room } : Recording).sendSamples (ss.map quantise) = sent at hsend ⊢
  obtain ⟨sent, f⟩ := sent
  cases f <;> exact ⟨hsend.bytes, hsend.isOpen, hsend.full⟩

theorem stuck_capture (m : Mixer) (n : Int) : Stuck r (r.capture m n).1 := by
  by_cases hn : 0 < n
  · obtain ⟨room, hcapture⟩ := capture_eq r m hn
    rw [hcapture]
    exact (stuck_room r room).trans (stuck_write ((stuck_room r room).obstacle?.trans h) _)
  · rw [capture, if_pos (Int.not_lt.mp hn)]
    exact ⟨rfl, rfl, rfl⟩

theorem close_of_obstacle : r.close.1.bytes = r.bytes ∧ r.close.2 ≠ none := by
  simp only [close, putSizes, h]
  cases why <;> cases r.isOpen <;> simp [Fault.gather_eq_none_iff]

theorem startHeader_of_new (hsent : r.sent = 0) : ∃ r' f, r.startHeader = (r', some f) := by
  have hne : (header r.rate).isEmpty = false := by
    rw [Array.isEmpty_eq_false_iff, ← Array.size_pos_iff, size_header]
    omega
  have hsend : ({ r with headerTried := true } : Recording).send (header r.rate) =
      ({ r with headerTried := true }, some (r.failure "write" why)) := by
    have hobstacle : ({ r with headerTried := true } : Recording).obstacle? = some why := h
    rw [send, hobstacle]
    simp only [hne, Bool.false_and, Bool.false_eq_true, if_false]
    rfl
  simp only [startHeader]
  rw [if_neg (not_not.mpr hsent), hsend]
  exact ⟨_, _, rfl⟩

omit h in
theorem sendSamples_of_startHeader (hnew : r.headerTried = false) {r' : Recording} {f : Fault}
    (hstart : r.startHeader = (r', some f)) (values : Array Int) :
    r.sendSamples values = (r', some f) := by
  simp only [sendSamples, hnew, hstart, Bool.false_eq_true, if_false]

/-- What is sent first is a header, so there is something to refuse. -/
theorem write_ne_none_of_new (hnew : r.headerTried = false) (hsent : r.sent = 0)
    (ss : Array Float32) : (r.write ss).2 ≠ none := by
  obtain ⟨room, hwrite⟩ := write_eq r ss
  obtain ⟨r', f, hstart⟩ := startHeader_of_new (r := { r with room }) h hsent
  rw [hwrite, sendSamples_of_startHeader (r := { r with room }) hnew hstart]
  simp

end

theorem faults_ne_nil_of_new {r : Recording} {why : Errno} (h : r.obstacle? = some why)
    (hnew : r.headerTried = false) (hsent : r.sent = 0) {calls : List Call}
    (hreach : ∃ c ∈ calls, c.Reaches) : r.faults calls ≠ [] := by
  induction calls with
  | nil => simp at hreach
  | cons c calls ih =>
      by_cases hc : c.Reaches
      · have hfault : (r.act c).2 ≠ none := by
          cases c with
          | write ss => exact write_ne_none_of_new h hnew hsent ss
          | capture m n =>
              obtain ⟨room, hcapture⟩ := capture_eq r m hc
              rw [act, hcapture]
              exact write_ne_none_of_new (r := { r with room }) h hnew hsent _
        obtain ⟨f, hf⟩ := Option.ne_none_iff_exists'.mp hfault
        simp [faults, hf]
      · have hrest : ∃ d ∈ calls, d.Reaches := by
          simpa only [List.mem_cons, exists_eq_or_imp, hc, false_or] using hreach
        rw [faults, (act_of_not_reaches r hc).1]
        exact ih hrest

end Recording
end GuestHost
