import GuestHost.Proofs.Session.Frames
import Mathlib.Tactic.Ring

/-! # How much is recorded

Every frame that is played adds its samples to the recording of a session, and nothing else does
(`Run.Tallied`, `Session.recorded_run`).  All frames have the same number of samples, so that what is
recorded falls behind the frames when the samples of a second cannot be shared out evenly
(`Session.recorded_frame_by_frame`). -/

namespace GuestHost

/-! ### Captures -/

namespace Recording

theorem samples_send (r : Recording) (b : Bytes) : (r.send b).1.samples = r.samples := by
  unfold send
  split <;> rfl

theorem samples_startHeader (r : Recording) : r.startHeader.1.samples = r.samples := by
  have hsend := samples_send { r with headerTried := true } (header r.rate)
  unfold startHeader
  simp only
  split_ifs
  · rfl
  · rcases hsent : ({ r with headerTried := true } : Recording).send (header r.rate) with ⟨r', _ | f⟩
    all_goals
      rw [hsent] at hsend
      exact hsend

theorem samples_startData (r : Recording) : r.startData.1.samples = r.samples := by
  have hsend := samples_send r (dataMark ++ Bytes.ofWord unknownSize)
  unfold startData
  rcases hsent : r.send (dataMark ++ Bytes.ofWord unknownSize) with ⟨r', _ | f⟩
  all_goals
    rw [hsent] at hsend
    exact hsend

/-- A part that was sent before is not sent again. -/
theorem samples_unless (r : Recording) (sent : Bool) {part : Recording × Option Fault}
    (h : part.1.samples = r.samples) :
    (if sent then (r, none) else part).1.samples = r.samples := by
  cases sent
  · exact h
  · rfl

theorem samples_sendSamples (r : Recording) (values : Array Int) :
    (r.sendSamples values).1.samples = r.samples := by
  have hheader := r.samples_unless r.headerTried r.samples_startHeader
  unfold sendSamples
  generalize (if r.headerTried then (r, none) else r.startHeader) = headed at hheader ⊢
  obtain ⟨headed, _ | f⟩ := headed
  · have hdata := (headed.samples_unless headed.dataStarted headed.samples_startData).trans hheader
    simp only
    generalize (if headed.dataStarted then (headed, none) else headed.startData) = marked at hdata ⊢
    obtain ⟨marked, _ | f⟩ := marked
    · have hsend := samples_send { marked with encoded := marked.encoded + values.size }
        (encode values)
      simp only
      generalize ({ marked with encoded := marked.encoded + values.size } : Recording).send
        (encode values) = sent at hsend ⊢
      obtain ⟨sent, _ | f⟩ := sent
      · exact hsend.trans hdata
      · exact hsend.trans hdata
    · exact hdata
  · exact hheader

/-- **A capture** counts its samples, unless they could not be written. -/
theorem samples_capture (r : Recording) (m : Mixer) {n : Int} (hn : 0 < n) :
    (r.capture m n).1.samples
      = r.samples + (if (r.capture m n).2.2.isNone then n.toNat else 0) := by
  obtain ⟨room, hcapture⟩ := capture_eq r m hn
  obtain ⟨room', hwrite⟩ := write_eq ({ r with room } : Recording) (m.render n.toNat).2
  have hsend := samples_sendSamples ({ r with room := room' } : Recording)
    ((m.render n.toNat).2.map quantise)
  rw [hcapture, hwrite]
  simp only
  rcases hsent : ({ r with room := room' } : Recording).sendSamples ((m.render n.toNat).2.map quantise)
    with ⟨r', _ | f⟩
  · have hkept : r'.samples = r.samples := by rwa [hsent] at hsend
    simp [m.size_render, hkept]
  · have hkept : r'.samples = r.samples := by rwa [hsent] at hsend
    simp [hkept]

theorem samples_create {t t' : FileTree} {path : String} {rate : Int} {r : Recording}
    (h : create t path rate = .ok (t', r)) : r.samples = 0 := by
  unfold create at h
  split at h
  · cases h
  · cases h
    rfl

theorem samples_reread (r : Recording) (t : FileTree) : (r.reread t).samples = r.samples := by
  unfold reread
  split <;> rfl

end Recording

/-! ### During a run -/

/-- How many samples were recorded, if there is a recording. -/
def Session.recorded (s : Session) : Option Nat := s.recording.map (·.samples)

namespace Run

theorem recorded_arriveAll (r : Run) (as : List Arrival) :
    (as.foldl arrive r).session.recorded = r.session.recorded := by
  refine List.foldlRecOn (motive := fun r' => r'.session.recorded = r.session.recorded) as arrive
    rfl ?_
  intro r' h a _
  rw [← h, arrive]
  split_ifs <;> rfl

theorem recorded_call (r : Run) : r.call.1.session.recorded = r.session.recorded := by
  unfold call
  simp only
  split_ifs <;> rfl

/-- Rendering records the samples of a frame, unless they cannot be written. -/
theorem recorded_render (r : Run) {samples : Int} (hpos : 0 < samples) :
    (r.render samples).1.session.recorded = r.session.recorded.map
      (· + if (r.render samples).2.isNone then samples.toNat else 0) := by
  unfold render Session.recorded
  cases r.session.recording with
  | none => rfl
  | some recording =>
      simp only [Option.map_some]
      rw [Recording.samples_capture _ _ hpos, Recording.samples_reread]

theorem recorded_conclude (r : Run) (stop : Option Stop) :
    (r.conclude stop).1.session.recorded = r.session.recorded := by
  rcases stop with _ | _ | _ | _ <;> rfl

/-- To what there was, the samples of all frames that were rendered were added. -/
def Tallied (before : Option Nat) (samples : Nat) (r : Run × List Beat) : Prop :=
  r.1.session.recorded = before.map (· + r.2.count .rendered * samples)

namespace Tallied

variable {before : Option Nat} {samples : Nat} {r : Run × List Beat}

theorem congr {r' : Run × List Beat} (h : Tallied before samples r)
    (hrecorded : r'.1.session.recorded = r.1.session.recorded)
    (hbeats : r'.2.count .rendered = r.2.count .rendered) : Tallied before samples r' := by
  rw [Tallied, hrecorded, hbeats]
  exact h

theorem render {samples : Int} (h : Tallied before samples.toNat r) (hpos : 0 < samples) :
    Tallied before samples.toNat ((r.1.render samples).1,
      r.2 ++ [if (r.1.render samples).2.isNone then .rendered else .unrendered]) := by
  rw [Tallied, recorded_render r.1 hpos, h, Option.map_map]
  congr 1
  funext count
  cases (r.1.render samples).2 with
  | none => simp [Nat.add_mul, Nat.add_assoc]
  | some f => simp

/-- **One frame after the other** is added to the recording. -/
theorem loop {pace : Pace} (h : Tallied before pace.samples.toNat r) (hpos : 0 < pace.samples)
    (interrupt : FileTree → Bool) (arrivals : Nat → List Arrival) (frames n : Nat) :
    Tallied before pace.samples.toNat
      ((Run.loop pace interrupt arrivals).noting.run frames n r).1 := by
  refine FrameLoop.run_keeps (P := Tallied before pace.samples.toNat) _ ?_ ?_ ?_ frames n h
  · exact fun k r h => h.congr (recorded_arriveAll r.1 (arrivals k)) (by simp [FrameLoop.noting])
  · exact fun k r h => h.congr (recorded_call r.1) (by simp [FrameLoop.noting])
  · exact fun r h => h.render hpos

end Tallied

theorem tallied_start (r : Run) (samples : Nat) : Tallied r.session.recorded samples (r, []) := by
  simp [Tallied]

/-- **Driving a guest** adds the samples of the frames that are played. -/
theorem recorded_drive {r : Run} {pace : Pace} (hpace : r.pace = .ok pace) (hpos : 0 < pace.samples)
    (patience : Nat) (interrupt : FileTree → Bool) (arrivals : Nat → List Arrival) :
    (r.drive patience interrupt arrivals).1.session.recorded = r.session.recorded.map
      (· + (r.beats patience interrupt arrivals).count .rendered * pace.samples.toNat) := by
  have hloop : ∀ frames stop,
      (((loop pace interrupt arrivals).run frames 0 r).1.conclude stop).1.session.recorded =
        r.session.recorded.map (· + ((loop pace interrupt arrivals).notes frames r).count .rendered *
          pace.samples.toNat) := by
    intro frames stop
    rw [recorded_conclude, ← FrameLoop.run_noting _ _ _ _ []]
    exact (r.tallied_start _).loop hpos interrupt arrivals frames 0
  unfold drive beats
  cases hframe : r.hasFrame with
  | false => exact (by simp : r.session.recorded = r.session.recorded.map (· + 0 * _))
  | true =>
      simp only [hpace, Bool.not_true, Bool.false_eq_true, if_false]
      split_ifs
      · exact hloop patience _
      · exact hloop _ _

end Run

namespace Session

/-- **A run** adds the samples of the frames it plays to the recording, and nothing else. -/
theorem recorded_run {s : Session} (h : s.Steady) (hsound : s.settings.Sound) (patience : Nat)
    (interrupt : FileTree → Bool) (target : String) (arrivals : Nat → List Arrival) :
    (s.run patience interrupt target arrivals).1.recorded = s.recorded.map
      (· + (s.beats patience interrupt target arrivals).count .rendered *
        (s.settings.audio.sampleRate / s.settings.frame.fps).toNat) := by
  obtain ⟨s', f, log, hbegin, -, hrecording⟩ | ⟨s', r, log, hbegin, hcontinues, hrecording⟩ :=
    s.begin_continues target
  · have hsame : s'.recorded = s.recorded := congrArg (Option.map Recording.samples) hrecording
    unfold Session.run beats
    simp [hbegin, hsame]
  · obtain ⟨hrun, -, hbeats⟩ := run_of_begin hbegin patience interrupt arrivals
    have hsame : r.session.recorded = s.recorded := congrArg (Option.map Recording.samples) hrecording
    rw [hrun, hbeats, ← hsame]
    exact Run.recorded_drive (h.pace_eq hsound hcontinues) hsound.pace_eq.2.1 patience interrupt
      arrivals

/-- The sessions that come of starting one and running guests in it, with the number of frames that were
played.  Between two runs a picker may still deliver to a run that is over, and files may change. -/
inductive Played : Session → Nat → Prop
  | start {settings : Settings} {parts : Parts} {files t : FileTree} {s : Session} {log : Journal}
      (h : Session.start settings parts files = (t, .ok s, log)) : Played s 0
  | run {s : Session} {n : Nat} (patience : Nat) (interrupt : FileTree → Bool) (target : String)
      (arrivals : Nat → List Arrival) (h : Played s n) :
      Played (s.run patience interrupt target arrivals).1
        (n + (s.beats patience interrupt target arrivals).count .rendered)
  | arrive {s : Session} {n : Nat} (a : Arrival) (h : Played s n) : Played (s.arrive a) n
  | files {s : Session} {n : Nat} (files : FileTree) (h : Played s n) : Played { s with files } n

variable {s : Session} {n : Nat}

theorem Played.reachable (h : s.Played n) : s.Reachable := by
  induction h with
  | start h => exact .start h
  | run patience interrupt target arrivals _ ih => exact .run patience interrupt target arrivals ih
  | arrive a _ ih => exact .arrive a ih
  | files t _ ih => exact .files t ih

theorem recorded_start {settings : Settings} {parts : Parts} {files t : FileTree} {log : Journal}
    (h : start settings parts files = (t, .ok s, log)) (hpath : s.settings.audio.recordPath ≠ "") :
    s.recorded = some 0 := by
  obtain ⟨s₀, -, hrecording⟩ := exists_of_start h
  unfold startRecording at hrecording
  split_ifs at hrecording with hnone
  · cases hrecording
    exact absurd hnone hpath
  · split at hrecording
    · cases hrecording
    · rename_i hcreate
      cases hrecording
      exact congrArg some (Recording.samples_create hcreate)

/-- As many samples were recorded as all frames together have. -/
theorem Played.recorded_eq (h : s.Played n) (hsound : s.settings.Sound)
    (hpath : s.settings.audio.recordPath ≠ "") :
    s.recorded = some (n * (s.settings.audio.sampleRate / s.settings.frame.fps).toNat) := by
  induction h with
  | start h => rw [recorded_start h hpath, Nat.zero_mul]
  | run patience interrupt target arrivals h ih =>
      rename_i s n
      have hsettings := (s.continues_run patience interrupt target arrivals).settings
      rw [hsettings] at hsound hpath ⊢
      rw [recorded_run h.reachable.steady hsound, ih hsound hpath, Option.map_some, Nat.add_mul]
  | arrive a _ ih => exact ih hsound hpath
  | files t _ ih => exact ih hsound hpath

section shares
variable {rate fps : Int} (hfps : 0 < fps)
include hfps

/-- Shares of whole samples add up to the samples of all frames just if less than one is left over. -/
theorem shares_eq_iff (n : Nat) : n * (rate / fps) = n * rate / fps ↔ n * (rate % fps) < fps := by
  have hleft : 0 ≤ n * (rate % fps) :=
    Int.mul_nonneg (Int.natCast_nonneg n) (Int.emod_nonneg rate (Int.ne_of_gt hfps))
  have hall : n * rate = n * (rate % fps) + fps * (n * (rate / fps)) := by
    conv_lhs => rw [← Int.mul_ediv_add_emod rate fps]
    ring
  rw [hall, Int.add_mul_ediv_left _ _ (Int.ne_of_gt hfps)]
  constructor
  · intro heq
    have hnone : n * (rate % fps) / fps = 0 := by omega
    have hsmall := Int.emod_lt_of_pos (n * (rate % fps)) hfps
    rwa [Int.emod_def, hnone, Int.mul_zero, Int.sub_zero] at hsmall
  · intro hlt
    rw [Int.ediv_eq_zero_of_lt hleft hlt, Int.zero_add]

/-- Shares that are even add up to the samples of all frames. -/
theorem shares_of_dvd (h : fps ∣ rate) (n : Nat) : n * (rate / fps) = n * rate / fps := by
  rw [shares_eq_iff hfps, Int.emod_eq_zero_of_dvd h, Int.mul_zero]
  exact hfps

end shares

/-- In every second the shares lack what they leave over. -/
theorem shares_of_second (rate fps : Int) (m : Nat) :
    m * fps * (rate / fps) = m * (rate - rate % fps) := by
  rw [Int.emod_def, Int.sub_sub_self, Int.mul_assoc]

/-- **What is recorded falls behind the frames.**  With settings that were accepted and a file to record
to, every frame records the whole part of its share of a second, after any runs and within any run.

So what is recorded is what all frames together are due just if less than a sample is left over from all
of them, which is so for any number of frames if the shares are even.  Whole seconds of frames lack
what the shares of a second leave over. -/
theorem recorded_frame_by_frame (h : s.Played n) (haccepted : s.settings.check = .ok s.settings)
    (hpath : s.settings.audio.recordPath ≠ "") :
    let rate := s.settings.audio.sampleRate
    let fps := s.settings.frame.fps
    (∃ recording, s.recording = some recording ∧ (recording.samples : Int) = n * (rate / fps) ∧
      ((recording.samples : Int) = n * rate / fps ↔ n * (rate % fps) < fps) ∧
      (fps ∣ rate → (recording.samples : Int) = n * rate / fps) ∧
      ∀ m : Nat, n = m * fps → (recording.samples : Int) = m * (rate - rate % fps)) ∧
    ∀ target s' r log, s.begin target = (s', .ok r, log) →
      ∀ interrupt arrivals frames,
        let l := Run.loop ⟨rate / fps, ⟨Pace.second / fps⟩⟩ interrupt arrivals
        ∃ recording, (l.run frames 0 r).1.session.recording = some recording ∧
          (recording.samples : Int) = (n + (l.notes frames r).count .rendered) * (rate / fps) := by
  intro rate fps
  obtain ⟨-, hsound⟩ := Settings.check_eq_ok_iff.mp haccepted
  have hrecorded := h.recorded_eq hsound hpath
  have hpos : 1 ≤ rate / fps := hsound.pace_eq.2.1
  have hshare : ((rate / fps).toNat : Int) = rate / fps := Int.toNat_of_nonneg (by omega)
  constructor
  · obtain ⟨recording, hrecording, hsamples⟩ := Option.map_eq_some_iff.mp hrecorded
    have hcount : (recording.samples : Int) = n * (rate / fps) := by
      rw [hsamples, Int.natCast_mul, hshare]
    refine ⟨recording, hrecording, hcount, ?_, fun heven => ?_, fun m hm => ?_⟩
    · rw [hcount]
      exact shares_eq_iff hsound.fps n
    · rw [hcount]
      exact shares_of_dvd hsound.fps heven n
    · rw [hcount, hm]
      exact shares_of_second rate fps m
  · intro target s' r log hbegin interrupt arrivals frames l
    have hbefore : r.session.recorded = s.recorded :=
      congrArg (Option.map Recording.samples) (continues_of_begin hbegin).2
    let pace : Pace := ⟨rate / fps, ⟨Pace.second / fps⟩⟩
    have hsome : 0 < pace.samples := hpos
    have htallied := (r.tallied_start _).loop hsome interrupt arrivals frames 0
    have hafter : (l.run frames 0 r).1.session.recorded =
        some (n * (rate / fps).toNat + (l.notes frames r).count .rendered * (rate / fps).toNat) := by
      rw [← FrameLoop.run_noting l frames 0 r []]
      rw [Run.Tallied, hbefore, hrecorded] at htallied
      exact htallied
    obtain ⟨recording, hrecording, hsamples⟩ := Option.map_eq_some_iff.mp hafter
    refine ⟨recording, hrecording, ?_⟩
    rw [hsamples, ← Nat.add_mul, Int.natCast_mul, Int.natCast_add, hshare]

/-- Whether a session can be started and passes a test. -/
def starts (settings : Settings) (files : FileTree) (test : Session → Bool) : Bool :=
  match start settings {} files with
  | (_, .ok s, _) => test s
  | _ => false

theorem exists_of_starts {settings : Settings} {files : FileTree} {test : Session → Bool}
    (h : starts settings files test) :
    ∃ s t log, start settings {} files = (t, .ok s, log) ∧ test s := by
  unfold starts at h
  split at h
  · exact ⟨_, _, _, ‹_›, h⟩
  · cases h

/-- Two frames of a five-hundredth of a second at 1500 samples a second are due six samples, and six are
recorded. -/
theorem recording_of_even_shares :
    let files : FileTree :=
      { entries := [(["g.wasm"], .file (.module { exports := [("frame", {})] }))] }
    let settings : Settings :=
      { frame := { fps := 500, limit := 2 }, audio := { sampleRate := 1500, recordPath := "/out.wav" } }
    let never : FileTree → Bool := fun _ => false
    ∃ s t log, start settings {} files = (t, .ok s, log) ∧ settings.check = .ok settings ∧
      Played (s.run 0 never "/g.wasm").1 2 ∧
      ∃ recording, (s.run 0 never "/g.wasm").1.recording = some recording ∧
        (recording.samples : Int) = 2 * 1500 / 500 := by
  intro files settings never
  have haccepted : settings.check = .ok settings :=
    Settings.check_eq_ok_iff.mpr ⟨rfl, { Settings.sound_standard with
      fps := by decide, limit := by decide, rate := ⟨by decide, by decide, by decide⟩ }⟩
  have hruns : starts settings files
      fun s => decide ((s.beats 0 never "/g.wasm").count .rendered = 2) := by decide +kernel
  obtain ⟨s, t, log, hstart, hframes⟩ := exists_of_starts hruns
  have hplayed := Played.run 0 never "/g.wasm" (fun _ => []) (.start hstart)
  rw [of_decide_eq_true hframes] at hplayed
  have hsettings : (s.run 0 never "/g.wasm").1.settings = settings :=
    (s.continues_run 0 never "/g.wasm" _).settings.trans (steady_start hstart).1
  obtain ⟨⟨recording, hrecording, -, -, heven, -⟩, -⟩ := recorded_frame_by_frame hplayed
    (by rw [hsettings]; exact haccepted) (by rw [hsettings]; decide)
  rw [hsettings] at heven
  exact ⟨s, t, log, hstart, haccepted, hplayed, recording, hrecording, heven (by decide)⟩

/-- Two frames of a five-hundredth of a second at 750 samples a second are due three samples, and two are
recorded. -/
theorem recording_falls_behind :
    let files : FileTree :=
      { entries := [(["g.wasm"], .file (.module { exports := [("frame", {})] }))] }
    let settings : Settings :=
      { frame := { fps := 500, limit := 2 }, audio := { sampleRate := 750, recordPath := "/out.wav" } }
    let never : FileTree → Bool := fun _ => false
    ∃ s t log, start settings {} files = (t, .ok s, log) ∧ settings.check = .ok settings ∧
      Played (s.run 0 never "/g.wasm").1 2 ∧ (s.run 0 never "/g.wasm").1.recorded = some 2 ∧
      (2 * settings.audio.sampleRate / settings.frame.fps) = 3 := by
  intro files settings never
  have haccepted : settings.check = .ok settings :=
    Settings.check_eq_ok_iff.mpr ⟨rfl, { Settings.sound_standard with
      fps := by decide, limit := by decide, rate := ⟨by decide, by decide, by decide⟩ }⟩
  have hruns : starts settings files fun s =>
      decide ((s.beats 0 never "/g.wasm").count .rendered = 2 ∧
        (s.run 0 never "/g.wasm").1.recorded = some 2) := by decide +kernel
  obtain ⟨s, t, log, hstart, htest⟩ := exists_of_starts hruns
  obtain ⟨hframes, hrecorded⟩ := of_decide_eq_true htest
  have hplayed := Played.run 0 never "/g.wasm" (fun _ => []) (.start hstart)
  rw [hframes] at hplayed
  exact ⟨s, t, log, hstart, haccepted, hplayed, hrecorded, by decide⟩

end Session
end GuestHost
