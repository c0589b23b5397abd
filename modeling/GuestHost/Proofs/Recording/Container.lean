import GuestHost.Proofs.Recording.Layout
import GuestHost.Settings
import Mathlib.Algebra.Group.Int.Defs
import Mathlib.Algebra.Group.Nat.Defs

/-! # The container of a recording

A file can be read as a WAV file if its parts are where readers look for them
(`Recording.IsContainer`).  Recordings with samples are such files, a recording without is not:
its header goes out with the first samples only (`Recording.container_iff_reached`). -/

namespace GuestHost

namespace Bytes

/-- The number in the four bytes from `start` on, the lowest first. -/
def whole? (b : Bytes) (start : Nat) : Option Int := (b.word? start).map fun w => w.toNat

/-- The number in the two bytes from `start` on, the lowest first. -/
def half? (b : Bytes) (start : Nat) : Option Int :=
  match b[start]?, b[start + 1]? with
  | some low, some high => some (low.toNat + 256 * high.toNat)
  | _, _ => none

theorem word_of_bytes (w : UInt32) :
    w.toUInt8.toUInt32 ||| ((w >>> 8).toUInt8.toUInt32 <<< 8) |||
      ((w >>> 16).toUInt8.toUInt32 <<< 16) ||| ((w >>> 24).toUInt8.toUInt32 <<< 24) = w := by
  apply UInt32.toBitVec_inj.mp
  apply BitVec.eq_of_getLsbD_eq
  intro i hi
  have h8 : ((8 : UInt32).toBitVec % 32).toNat = 8 := rfl
  have h16 : ((16 : UInt32).toBitVec % 32).toNat = 16 := rfl
  have h24 : ((24 : UInt32).toBitVec % 32).toNat = 24 := rfl
  simp only [UInt32.toBitVec_or, UInt32.toBitVec_shiftLeft, UInt8.toBitVec_toUInt32,
    UInt32.toBitVec_toUInt8, UInt32.toBitVec_shiftRight, BitVec.getLsbD_or, BitVec.shiftLeft_eq',
    BitVec.ushiftRight_eq', BitVec.getLsbD_shiftLeft, BitVec.getLsbD_setWidth,
    BitVec.getLsbD_ushiftRight, h8, h16, h24]
  -- Every bit is in one of the four bytes, and is found there again.
  have hsplit : i < 8 ∨ (8 ≤ i ∧ i < 16) ∨ (16 ≤ i ∧ i < 24) ∨ 24 ≤ i := by omega
  obtain h | ⟨h, h'⟩ | ⟨h, h'⟩ | h := hsplit <;> grind

end Bytes

namespace Recording

/-- A WAV file of 16-bit samples on one channel: its parts are where readers look for them. -/
structure IsContainer (b : Bytes) (rate : Int) (samples : Nat) : Prop where
  riff : b.slice 0 4 = Utf8.encode "RIFF"
  total : b.whole? 4 = some ((b.size : Int) - 8)
  wave : b.slice 8 4 = Utf8.encode "WAVE"
  format : b.slice 12 4 = Utf8.encode "fmt "
  formatSize : b.whole? 16 = some 16
  pcm : b.half? 20 = some 1
  mono : b.half? 22 = some 1
  sampleRate : b.whole? 24 = some rate
  bytesPerSecond : b.whole? 28 = some (2 * rate)
  bytesPerSample : b.half? 32 = some 2
  bits : b.half? 34 = some 16
  data : b.slice 36 4 = Utf8.encode "data"
  dataSize : b.whole? 40 = some (2 * (samples : Int))
  dataBytes : b.size = 44 + 2 * samples

/-- What stands before the samples, byte by byte. -/
def lead (total data rate perSecond : UInt32) : Bytes :=
  #[82, 73, 70, 70,
    total.toUInt8, (total >>> 8).toUInt8, (total >>> 16).toUInt8, (total >>> 24).toUInt8,
    87, 65, 86, 69, 102, 109, 116, 32, 16, 0, 0, 0, 1, 0, 1, 0,
    rate.toUInt8, (rate >>> 8).toUInt8, (rate >>> 16).toUInt8, (rate >>> 24).toUInt8,
    perSecond.toUInt8, (perSecond >>> 8).toUInt8, (perSecond >>> 16).toUInt8,
    (perSecond >>> 24).toUInt8, 2, 0, 16, 0, 100, 97, 116, 97,
    data.toUInt8, (data >>> 8).toUInt8, (data >>> 16).toUInt8, (data >>> 24).toUInt8]

theorem size_lead (total data rate perSecond : UInt32) :
    (lead total data rate perSecond).size = 44 := rfl

theorem layout_eq (total data : UInt32) (rate : Int) (values : Array Int) :
    layout total data rate values =
      lead total data (wordOf rate) (wordOf (rate * 2)) ++ encode values := by
  have hriff : Utf8.encode "RIFF" = #[82, 73, 70, 70] := by decide +kernel
  have hwave : Utf8.encode "WAVEfmt " = #[87, 65, 86, 69, 102, 109, 116, 32] := by decide +kernel
  have hdata : dataMark = #[100, 97, 116, 97] := by decide +kernel
  have hsixteen : Bytes.ofWord 16 = #[16, 0, 0, 0] := by decide +kernel
  have hone : pair 1 = #[1, 0] := by decide +kernel
  have htwo : pair 2 = #[2, 0] := by decide +kernel
  have hbits : pair 16 = #[16, 0] := by decide +kernel
  rw [layout, form, lead, hriff, hwave, hdata, hsixteen, hone, htwo, hbits]
  simp only [Bytes.ofWord, List.append_toArray, List.cons_append, List.nil_append]

/-! ### Reading in what comes first -/

theorem whole?_append_left {a c : Bytes} {start : Nat} (h : start + 3 < a.size) :
    (a ++ c).whole? start = a.whole? start := by
  simp only [Bytes.whole?, Bytes.word?]
  rw [Array.getElem?_append_left (by omega), Array.getElem?_append_left (by omega),
    Array.getElem?_append_left (by omega), Array.getElem?_append_left (by omega)]

theorem half?_append_left {a c : Bytes} {start : Nat} (h : start + 1 < a.size) :
    (a ++ c).half? start = a.half? start := by
  simp only [Bytes.half?]
  rw [Array.getElem?_append_left (by omega), Array.getElem?_append_left (by omega)]

theorem slice_append_left {a c : Bytes} {start n : Nat} (h : start + n ≤ a.size) :
    (a ++ c).slice start n = a.slice start n := by
  have hrest : c.extract (start - a.size) (start + n - a.size) = #[] :=
    Array.extract_empty_of_stop_le_start (by omega)
  rw [Bytes.slice, Array.extract_append, hrest, Array.append_empty, Bytes.slice]

theorem whole?_ofWord {b : Bytes} {start : Nat} {w : UInt32}
    (h₀ : b[start]? = some w.toUInt8) (h₁ : b[start + 1]? = some (w >>> 8).toUInt8)
    (h₂ : b[start + 2]? = some (w >>> 16).toUInt8) (h₃ : b[start + 3]? = some (w >>> 24).toUInt8) :
    b.whole? start = some (w.toNat : Int) := by
  simp only [Bytes.whole?, Bytes.word?, h₀, h₁, h₂, h₃, Bytes.word_of_bytes, Option.map_some]

theorem toNat_wordOf {n : Int} (h : 0 ≤ n) (hlt : n < 2 ^ 32) : ((wordOf n).toNat : Int) = n := by
  have hmod : n % UInt32.size = n := Int.emod_eq_of_lt h hlt
  have hnat : n.toNat < UInt32.size := by
    rw [Int.toNat_lt h]
    exact hlt
  rw [wordOf, hmod, UInt32.toNat_ofNat_of_lt' hnat, Int.toNat_of_nonneg h]

/-- A header that tells what follows makes a container of it. -/
theorem isContainer_lead {total data rateWord perSecond : UInt32} {rate : Int} {samples : Nat}
    {rest : Bytes} (hrest : rest.size = 2 * samples) (htotal : (total.toNat : Int) = 36 + 2 * samples)
    (hdata : (data.toNat : Int) = 2 * samples) (hrate : (rateWord.toNat : Int) = rate)
    (hperSecond : (perSecond.toNat : Int) = 2 * rate) :
    IsContainer (lead total data rateWord perSecond ++ rest) rate samples := by
  have hlead := size_lead total data rateWord perSecond
  have hsize : (lead total data rateWord perSecond ++ rest).size = 44 + 2 * samples := by
    rw [Array.size_append, hlead, hrest]
  have hwhole (start : Nat) (h : start + 3 < 44) :
      (lead total data rateWord perSecond ++ rest).whole? start =
        (lead total data rateWord perSecond).whole? start :=
    whole?_append_left (by rwa [hlead])
  have hhalf (start : Nat) (h : start + 1 < 44) :
      (lead total data rateWord perSecond ++ rest).half? start =
        (lead total data rateWord perSecond).half? start :=
    half?_append_left (by rwa [hlead])
  have hslice (start : Nat) (h : start + 4 ≤ 44) :
      (lead total data rateWord perSecond ++ rest).slice start 4 =
        (lead total data rateWord perSecond).slice start 4 :=
    slice_append_left (by rwa [hlead])
  constructor
  case riff =>
    rw [hslice 0 (by decide)]
    exact (by decide +kernel : (#[82, 73, 70, 70] : Bytes) = Utf8.encode "RIFF")
  case wave =>
    rw [hslice 8 (by decide)]
    exact (by decide +kernel : (#[87, 65, 86, 69] : Bytes) = Utf8.encode "WAVE")
  case format =>
    rw [hslice 12 (by decide)]
    exact (by decide +kernel : (#[102, 109, 116, 32] : Bytes) = Utf8.encode "fmt ")
  case data =>
    rw [hslice 36 (by decide)]
    exact (by decide +kernel : (#[100, 97, 116, 97] : Bytes) = Utf8.encode "data")
  case total =>
    rw [hwhole 4 (by decide), whole?_ofWord rfl rfl rfl rfl, htotal, hsize]
    congr 1
    omega
  case formatSize =>
    rw [hwhole 16 (by decide), whole?_ofWord (w := 16) rfl rfl rfl rfl]
    rfl
  case sampleRate => rw [hwhole 24 (by decide), whole?_ofWord rfl rfl rfl rfl, hrate]
  case bytesPerSecond => rw [hwhole 28 (by decide), whole?_ofWord rfl rfl rfl rfl, hperSecond]
  case dataSize => rw [hwhole 40 (by decide), whole?_ofWord rfl rfl rfl rfl, hdata]
  case pcm => rw [hhalf 20 (by decide)]; rfl
  case mono => rw [hhalf 22 (by decide)]; rfl
  case bytesPerSample => rw [hhalf 32 (by decide)]; rfl
  case bits => rw [hhalf 34 (by decide)]; rfl
  case dataBytes => exact hsize

/-- A header with the right sizes makes a container of the samples after it. -/
theorem isContainer_layout {rate : Int} (hrate : 0 < rate) (hmax : rate ≤ Settings.maxSampleRate)
    (values : Array Int) (hsize : 36 + 2 * values.size < 2 ^ 32) :
    IsContainer
      (layout (wordOf (36 + 2 * values.size)) (wordOf (2 * values.size)) rate values) rate
      values.size := by
  have hbound : rate ≤ 768000 := hmax
  have htotal := toNat_wordOf (n := 36 + 2 * values.size) (by omega) (by omega)
  have hdata := toNat_wordOf (n := 2 * values.size) (by omega) (by omega)
  have hrateWord := toNat_wordOf (n := rate) (by omega) (by omega)
  have hperSecond := toNat_wordOf (n := rate * 2) (by omega) (by omega)
  rw [layout_eq]
  exact isContainer_lead (size_encode values) htotal hdata hrateWord (by rw [hperSecond]; omega)

/-! ### Recordings -/

/-- **Ended recordings** are WAV files with the rate and the number of samples that were asked for, if
some call got as far as sending.  Otherwise there is no header, and the file consists of four zeros
and of a size that is wrong by far. -/
theorem container_iff_reached {t t' : FileTree} {path : String} {rate : Int} {r : Recording}
    {calls : List Call} (hr : create t path rate = .ok (t', r)) (hrate : 1 ≤ rate)
    (hmax : rate ≤ Settings.maxSampleRate) (hcalls : r.faults calls = [])
    (hclose : (r.after calls).close.2 = none) (hsize : 36 + 2 * (r.after calls).samples < 2 ^ 32) :
    ∃ b, ((r.after calls).close.1.flush t').fileAt? (t.placeOf path) = some b ∧
      (IsContainer b rate (r.after calls).samples ↔ ∃ c ∈ calls, c.Reaches) ∧
      ((¬ ∃ c ∈ calls, c.Reaches) → b = #[0, 0, 0, 0, 0xf8, 0xff, 0xff, 0xff]) := by
  by_cases hreach : ∃ c ∈ calls, c.Reaches
  · obtain ⟨hsamples, -, hfile⟩ := file_of_reaching hr hcalls hreach t'
    have hmapped : ((samplesOf calls).map quantise).size = (r.after calls).samples := by
      rw [Array.size_map, hsamples]
    have hcontainer := isContainer_layout hrate hmax ((samplesOf calls).map quantise)
      (by rw [hmapped]; exact hsize)
    rw [Array.size_map] at hcontainer
    rw [hsamples]
    exact ⟨_, hfile, ⟨fun _ => hreach, fun _ => hcontainer⟩, fun hidle => absurd hreach hidle⟩
  · obtain ⟨-, hfile⟩ := file_of_idle hr hreach hclose t'
    refine ⟨_, hfile, ⟨fun hcontainer => ?_, fun h => absurd h hreach⟩, fun _ => rfl⟩
    -- A container has a header of 44 bytes.
    have hbytes := hcontainer.dataBytes
    have height : (#[0, 0, 0, 0, 0xf8, 0xff, 0xff, 0xff] : Bytes).size = 8 := rfl
    omega

/-- A frame that was captured makes a WAV file. -/
theorem captured_frame_is_container :
    ∃ (t' : FileTree) (r : Recording) (b : Bytes),
      create FileTree.start "a.wav" 8000 = .ok (t', r) ∧ (1 : Int) ≤ 8000 ∧
      8000 ≤ Settings.maxSampleRate ∧ r.faults [.capture (Mixer.new 8000) 3] = [] ∧
      (r.after [.capture (Mixer.new 8000) 3]).close.2 = none ∧
      ((r.after [.capture (Mixer.new 8000) 3]).close.1.flush t').fileAt?
        (FileTree.start.placeOf "a.wav") = some b ∧
      IsContainer b 8000 3 := by
  have hcreate := create_of_create (t := FileTree.start) "a.wav"
    (p := ["work", "a.wav"]) rfl (by decide) 8000
  obtain ⟨-, hfaults⟩ := bare_after (obstacle?_blank "a.wav" ["work", "a.wav"] 8000)
    [.capture (Mixer.new 8000) 3]
  have hreach : ∃ c ∈ [Call.capture (Mixer.new 8000) 3], c.Reaches :=
    ⟨_, List.mem_cons_self, by decide⟩
  obtain ⟨hsamples, hclose, -⟩ := file_of_reaching hcreate hfaults hreach FileTree.start
  have hthree : (samplesOf [.capture (Mixer.new 8000) 3]).size = 3 := by
    simp [samplesOf, Call.samples, Mixer.size_render]
  rw [hthree] at hsamples
  obtain ⟨b, hfile, hcontainer, -⟩ := container_iff_reached hcreate (by decide) (by decide) hfaults
    hclose (by rw [hsamples]; decide)
  rw [hsamples] at hcontainer
  exact ⟨_, _, b, hcreate, by decide, by decide, hfaults, hclose, hfile, hcontainer.mpr hreach⟩

/-- A recording that is started and ended at once leaves a file, and the file is no WAV file. -/
theorem recording_without_samples_is_no_container :
    ∃ (t' : FileTree) (r : Recording) (b : Bytes),
      create FileTree.start "a.wav" 8000 = .ok (t', r) ∧ r.close.2 = none ∧
      (r.close.1.flush t').fileAt? (FileTree.start.placeOf "a.wav") = some b ∧
      ¬ IsContainer b 8000 r.samples ∧ b.slice 0 4 ≠ Utf8.encode "RIFF" := by
  have hcreate := create_of_create (t := FileTree.start) "a.wav"
    (p := ["work", "a.wav"]) rfl (by decide) 8000
  have hclose := (close_of_open (obstacle?_blank "a.wav" ["work", "a.wav"] 8000)).1
  have hidle : ¬ ∃ c ∈ ([] : List Call), c.Reaches := by simp
  obtain ⟨-, hfile⟩ := file_of_idle hcreate hidle hclose
    (FileTree.start.put ["work", "a.wav"] (.file (.bytes #[])))
  have hslice : Bytes.slice #[0, 0, 0, 0, 0xf8, 0xff, 0xff, 0xff] 0 4 ≠ Utf8.encode "RIFF" := by
    decide +kernel
  exact ⟨_, _, _, hcreate, hclose, hfile, fun hcontainer => hslice hcontainer.riff, hslice⟩

end Recording
end GuestHost
