import GuestHost.Proofs.Files.Frame
import GuestHost.Proofs.Recording.Writing

/-! # What the file of a recording holds

A file is a header with two sizes, then samples (`Recording.layout`).  The sizes are not known at
first (`Recording.recorded_blank`) and are put in when the recording ends, by which nothing else
changes (`Recording.patched_layout`, `Recording.bytes_close_recorded`).  A recording that ends without
samples has no header to put them into (`Recording.bytes_close_blank`).

Every recording is started in a new file, or on a device that takes no data
(`Recording.create_cases`). -/

namespace GuestHost
namespace Recording

/-! ### What the file holds -/

/-- The part of the header that tells the format. -/
def form (rate : Int) : Bytes :=
  Utf8.encode "WAVEfmt " ++ Bytes.ofWord 16 ++ pair 1 ++ pair 1 ++ Bytes.ofWord (wordOf rate)
    ++ Bytes.ofWord (wordOf (rate * 2)) ++ pair 2 ++ pair 16

/-- A header with two sizes, then samples. -/
def layout (total data : UInt32) (rate : Int) (values : Array Int) : Bytes :=
  Utf8.encode "RIFF" ++ Bytes.ofWord total ++ form rate ++ dataMark ++ Bytes.ofWord data
    ++ encode values

theorem size_form (rate : Int) : (form rate).size = 28 := by
  simp only [form, Array.size_append, size_ofWord, size_pair, size_waveFormat]

theorem size_layout (total data : UInt32) (rate : Int) (values : Array Int) :
    (layout total data rate values).size = 44 + 2 * values.size := by
  simp only [layout, Array.size_append, size_riff, size_form, size_dataMark, size_ofWord, size_encode]

theorem header_eq (rate : Int) :
    header rate = Utf8.encode "RIFF" ++ Bytes.ofWord unknownSize ++ form rate := by
  simp only [header, form, Array.append_assoc]

/-- A recording in a new file that takes data. -/
def blank (path : String) (place : Place) (rate : Int) : Recording := { path, place, rate }

variable (path : String) (place : Place) (rate : Int) (ss : Array Float32)

theorem bare_blank : (blank path place rate).bare = blank path place rate := rfl

theorem obstacle?_blank : (blank path place rate).obstacle? = none := rfl

theorem obstacle?_blank_full :
    ({ blank path place rate with full := true } : Recording).obstacle? = some .noSpace := rfl

/-- What is recorded first stands behind a header with sizes that are not known yet. -/
theorem recorded_blank :
    (blank path place rate).recorded ss =
      { blank path place rate with
        bytes := layout unknownSize unknownSize rate (ss.map quantise)
        position := 44 + 2 * ss.size
        sent := 44 + 2 * ss.size
        headerTried := true
        dataStarted := true
        sizeAt := 40
        encoded := ss.size
        samples := ss.size } := by
  have hmark : (dataMark ++ Bytes.ofWord unknownSize).size = 8 := by
    rw [Array.size_append, size_dataMark, size_ofWord]
  have hheaded : (blank path place rate).headed =
      { blank path place rate with
        bytes := header rate, position := 36, sent := 36, headerTried := true } := by
    have hsend : patched #[] 0 (header rate) = header rate :=
      (patched_end #[] (header rate)).trans (Array.empty_append ..)
    simp [headed, sending, headerDue, blank, hsend, size_header]
  have hmarked : (blank path place rate).headed.marked =
      { blank path place rate with
        bytes := layout unknownSize unknownSize rate #[], position := 44, sent := 44
        headerTried := true, dataStarted := true, sizeAt := 40 } := by
    have hsend : patched (header rate) 36 (dataMark ++ Bytes.ofWord unknownSize) =
        layout unknownSize unknownSize rate #[] := by
      rw [← size_header rate, patched_end, header_eq, layout]
      simp [encode, Array.append_assoc]
    rw [hheaded]
    simp [marked, sending, markDue, blank, hsend, hmark]
  have hsend : patched (layout unknownSize unknownSize rate #[]) 44 (encode (ss.map quantise)) =
      layout unknownSize unknownSize rate (ss.map quantise) := by
    have hsize : (layout unknownSize unknownSize rate #[]).size = 44 := size_layout ..
    rw [← hsize, patched_end, layout, layout]
    simp [encode]
  rw [recorded, hmarked]
  simp [sending, blank, hsend, size_encode]

/-! ### The end of a recording -/

theorem isOpen_of_obstacle? {r : Recording} (h : r.obstacle? = none) : r.isOpen = true := by
  unfold obstacle? at h
  cases hopen : r.isOpen with
  | true => rfl
  | false => simp [hopen] at h

/-- Where the file takes data, closing puts the sizes in. -/
theorem close_of_open {r : Recording} (h : r.obstacle? = none) :
    r.close.2 = none ∧ r.close.1.samples = r.samples ∧
    r.close.1.bytes =
      let b := patched r.bytes 4 (Bytes.ofWord (wordOf ((r.sent : Int) - 8)))
      if r.sizeAt = 0 then b else patched b r.sizeAt (Bytes.ofWord (wordOf (2 * r.encoded))) := by
  have hopen := isOpen_of_obstacle? h
  simp only [close, putSizes, h]
  split_ifs <;> simp [Fault.gather]

theorem bare_close (r : Recording) : r.close.1.bare = r.bare.close.1 ∧ r.close.2 = r.bare.close.2 := by
  simp only [close, putSizes, obstacle?_bare]
  cases r.obstacle? with
  | none =>
      by_cases hsize : r.sizeAt = 0
      · have hbare : r.bare.sizeAt = 0 := hsize
        rw [if_pos hsize, if_pos hbare]
        exact ⟨rfl, rfl⟩
      · have hbare : r.bare.sizeAt ≠ 0 := hsize
        rw [if_neg hsize, if_neg hbare]
        exact ⟨rfl, rfl⟩
  | some why => cases why <;> exact ⟨rfl, rfl⟩

/-- How a recording ends does not depend on its room. -/
theorem close_congr {r r' : Recording} (h : r.bare = r'.bare) :
    r.close.1.bare = r'.close.1.bare ∧ r.close.2 = r'.close.2 := by
  obtain ⟨hbare, hfault⟩ := bare_close r
  obtain ⟨hbare', hfault'⟩ := bare_close r'
  exact ⟨by rw [hbare, hbare', h], by rw [hfault, hfault', h]⟩

theorem place_close_of_open {r : Recording} (h : r.obstacle? = none) :
    r.close.1.place = r.place ∧ r.close.1.full = r.full := by
  simp only [close, putSizes, h]
  split_ifs <;> exact ⟨rfl, rfl⟩

theorem patched_layout (total data total' data' : UInt32) (rate : Int) (values : Array Int) :
    patched (patched (layout total data rate values) 4 (Bytes.ofWord total')) 40
      (Bytes.ofWord data') = layout total' data' rate values := by
  have htotal : patched (layout total data rate values) 4 (Bytes.ofWord total') =
      layout total' data rate values := by
    have hput := patched_between (x := Bytes.ofWord total) (y := Bytes.ofWord total')
      (Utf8.encode "RIFF") (form rate ++ dataMark ++ Bytes.ofWord data ++ encode values) rfl
    simpa only [layout, size_riff, Array.append_assoc] using hput
  have hdata : patched (layout total' data rate values) 40 (Bytes.ofWord data') =
      layout total' data' rate values := by
    have hstart : (Utf8.encode "RIFF" ++ Bytes.ofWord total' ++ form rate ++ dataMark).size = 40 := by
      simp only [Array.size_append, size_riff, size_ofWord, size_form, size_dataMark]
    have hput := patched_between (x := Bytes.ofWord data) (y := Bytes.ofWord data')
      (Utf8.encode "RIFF" ++ Bytes.ofWord total' ++ form rate ++ dataMark) (encode values) rfl
    rwa [hstart] at hput
  rw [htotal, hdata]

/-- A closed recording has both sizes in its header. -/
theorem bytes_close_recorded :
    (((blank path place rate).recorded ss).close.1).bytes =
      layout (wordOf (36 + 2 * ss.size)) (wordOf (2 * ss.size)) rate (ss.map quantise) := by
  obtain ⟨-, -, hbytes⟩ := close_of_open (r := (blank path place rate).recorded ss)
    (by rw [obstacle?_recorded]; rfl)
  have htotal : ((44 + 2 * ss.size : Nat) : Int) - 8 = 36 + 2 * ss.size := by omega
  rw [hbytes, recorded_blank]
  simp only [htotal]
  exact patched_layout ..

theorem bytes_close_blank :
    (blank path place rate).close.1.bytes = #[0, 0, 0, 0, 0xf8, 0xff, 0xff, 0xff] := by
  obtain ⟨-, -, hbytes⟩ := close_of_open (obstacle?_blank path place rate)
  have hsizes : patched #[] 4 (Bytes.ofWord (wordOf ((0 : Nat) - 8))) =
      #[0, 0, 0, 0, 0xf8, 0xff, 0xff, 0xff] := by
    decide +kernel
  rw [hbytes, ← hsizes]
  simp only [blank, if_true]

/-! ### New recordings -/

/-- A recording starts as a blank one at the place of its path, if not on a device that is full. -/
theorem create_cases {t t' : FileTree} {path : String} {rate : Int} {r : Recording}
    (h : create t path rate = .ok (t', r)) :
    t.placeOf path ≠ [] ∧
      (r = blank path (t.placeOf path) rate ∨
        r = { blank path (t.placeOf path) rate with full := true }) := by
  unfold create at h
  obtain ⟨why, hcreate⟩ | ⟨hfull, hcreate⟩ | ⟨hdirectory, hcreate⟩ := t.create_cases path
  · simp [hcreate] at h
  · have hdirectory : t.find? (t.placeOf path) ≠ some .directory := by
      rw [hfull]
      simp
    simp only [hcreate, hfull, Except.ok.injEq, Prod.mk.injEq] at h
    exact ⟨FileTree.ne_nil_of_find? hdirectory, .inr h.2.symm⟩
  · have hne := FileTree.ne_nil_of_find? hdirectory
    simp only [hcreate, FileTree.find?_put hne, if_true, Except.ok.injEq, Prod.mk.injEq] at h
    exact ⟨hne, .inl h.2.symm⟩

/-- Where an empty file can be put, a recording is started. -/
theorem create_of_create {t : FileTree} (path : String) {p : Place}
    (h : t.create path = .ok (t.put p (.file (.bytes #[])), p)) (hp : p ≠ []) (rate : Int) :
    create t path rate = .ok (t.put p (.file (.bytes #[])), blank path p rate) := by
  simp only [create, h, FileTree.find?_put hp, if_true]
  rfl

theorem fileAt?_close {r : Recording} (h : r.obstacle? = none) (hplace : r.place ≠ [])
    (files : FileTree) : (r.close.1.flush files).fileAt? r.place = some r.close.1.bytes := by
  have hfull : r.full = false := by
    cases hfull : r.full with
    | false => rfl
    | true => simp [obstacle?, isOpen_of_obstacle? h, hfull] at h
  obtain ⟨hclosed, hclosedFull⟩ := place_close_of_open h
  rw [flush, if_neg (by rw [hclosedFull, hfull]; decide), hclosed, FileTree.fileAt?,
    FileTree.find?_put hplace, if_pos rfl]
  rfl

theorem flush_bare (r : Recording) (files : FileTree) : r.bare.flush files = r.flush files := rfl

section

variable {t t' : FileTree} {path : String} {rate : Int} {r : Recording} {calls : List Call}
  (hr : create t path rate = .ok (t', r)) (hcalls : r.faults calls = [])

include hr hcalls

/-- **Recordings with samples.**  If calls go well and one of them gets as far as sending, the
recording can be ended, and its file has both sizes and the samples of all calls. -/
theorem file_of_reaching (hreach : ∃ c ∈ calls, c.Reaches) (files : FileTree) :
    (r.after calls).samples = (samplesOf calls).size ∧ (r.after calls).close.2 = none ∧
    ((r.after calls).close.1.flush files).fileAt? (t.placeOf path) =
      some (layout (wordOf (36 + 2 * (samplesOf calls).size)) (wordOf (2 * (samplesOf calls).size))
        rate ((samplesOf calls).map quantise)) := by
  obtain ⟨hplace, rfl | rfl⟩ := create_cases hr
  · obtain ⟨hafter, -⟩ := bare_after (obstacle?_blank path (t.placeOf path) rate) calls
    rw [if_pos hreach, bare_blank] at hafter
    have hopen : ((blank path (t.placeOf path) rate).recorded (samplesOf calls)).obstacle? = none :=
      (obstacle?_recorded ..).trans (obstacle?_blank ..)
    have hbareAfter : ((blank path (t.placeOf path) rate).after calls).bare =
        ((blank path (t.placeOf path) rate).recorded (samplesOf calls)).bare := hafter
    obtain ⟨hbare, hfault⟩ := close_congr hbareAfter
    obtain ⟨hnone, -⟩ := close_of_open hopen
    refine ⟨?_, hfault.trans hnone, ?_⟩
    · have hsamples := congrArg (·.samples) hafter
      rw [recorded_blank] at hsamples
      exact hsamples
    · have hplaceEq : ((blank path (t.placeOf path) rate).recorded (samplesOf calls)).place =
          t.placeOf path := by
        rw [recorded_blank]
        rfl
      have hfile := fileAt?_close hopen (by rwa [hplaceEq]) files
      rwa [hplaceEq, bytes_close_recorded, ← flush_bare, ← hbare, flush_bare] at hfile
  · have hfull := obstacle?_blank_full path (t.placeOf path) rate
    exact absurd hcalls (faults_ne_nil_of_new hfull rfl rfl hreach)

omit hcalls in
/-- **Recordings without samples.**  If no call gets as far as sending, a recording that ended without
a fault has a size in its file and nothing else. -/
theorem file_of_idle (hidle : ¬ ∃ c ∈ calls, c.Reaches) (hclose : (r.after calls).close.2 = none)
    (files : FileTree) :
    (r.after calls).samples = 0 ∧
    ((r.after calls).close.1.flush files).fileAt? (t.placeOf path) =
      some #[0, 0, 0, 0, 0xf8, 0xff, 0xff, 0xff] := by
  obtain ⟨hplace, rfl | rfl⟩ := create_cases hr
  · rw [after_of_none hidle]
    refine ⟨rfl, ?_⟩
    have hfile := fileAt?_close (obstacle?_blank path (t.placeOf path) rate) hplace files
    rwa [bytes_close_blank] at hfile
  · -- A device that is full has no room for a size either.
    have hfull := obstacle?_blank_full path (t.placeOf path) rate
    rw [after_of_none hidle] at hclose
    exact absurd hclose (close_of_obstacle hfull).2

end

end Recording
end GuestHost
