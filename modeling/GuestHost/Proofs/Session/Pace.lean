import GuestHost.Proofs.Decimal.Whole
import GuestHost.Proofs.Recording.Writing
import GuestHost.Proofs.Session.Cleanup
import GuestHost.Proofs.Settings.Check

/-! # The pace of a session

The frames of a run are paced by the rate of the mixer and the frames per second that the settings
ask for.  Both stay what they were when the session was started, whatever guests do
(`Session.continues_run`), and so in a session with settings that were accepted the mixer runs at the
rate that was asked for (`Session.Steady.sampleRate_eq`).  Then a frame has a sample at least and
takes some time, and the host does not break down (`Session.Steady.pace_eq`). -/

namespace GuestHost

/-! ### Frames and samples -/

/-- With at most as many frames as samples in a second, and at most as many as nanoseconds, the host does not
break down. -/
theorem Pace.of_eq_ok {rate fps : Int} (hfps : 0 < fps) (hrate : fps ≤ rate) (htick : fps ≤ second) :
    Pace.of rate fps = .ok ⟨rate / fps, ⟨second / fps⟩⟩ ∧ 1 ≤ rate / fps ∧ 0 < second / fps := by
  have hsamples : 1 ≤ rate / fps := (Int.le_ediv_iff_mul_le hfps).mpr (by omega)
  have hlong : 1 ≤ second / fps := (Int.le_ediv_iff_mul_le hfps).mpr (by omega)
  have hcut : rate.tdiv fps = rate / fps := Int.tdiv_eq_ediv_of_nonneg (by omega)
  have hcut' : second.tdiv fps = second / fps := Int.tdiv_eq_ediv_of_nonneg (by decide)
  refine ⟨?_, hsamples, hlong⟩
  unfold Pace.of
  simp only [hcut, hcut']
  rw [if_neg (by omega), if_neg (by omega), if_neg (by omega)]

theorem Settings.Sound.pace_eq {s : Settings} (h : s.Sound) :
    let rate := s.audio.sampleRate
    let fps := s.frame.fps
    Pace.of rate fps = .ok ⟨rate / fps, ⟨Pace.second / fps⟩⟩ ∧ 1 ≤ rate / fps ∧
      0 < Pace.second / fps := by
  have hmost : s.frame.fps ≤ Pace.second := by
    calc s.frame.fps ≤ s.audio.sampleRate := h.rate.frames
      _ ≤ Settings.maxSampleRate := h.rate.most
      _ ≤ Pace.second := by decide
  exact Pace.of_eq_ok h.fps h.rate.frames hmost

theorem Mixer.sampleRate_new {rate : Int} (hpos : 0 < rate) (hmost : rate ≤ Settings.maxSampleRate) :
    (Mixer.new rate).sampleRate = rate := by
  have hfits : Settings.maxSampleRate < 2 * Binary.leadingBit := by decide
  rw [sampleRate, new, if_neg (Int.not_le.mpr hpos)]
  exact Binary.truncate_ofInt hpos (Int.lt_of_le_of_lt hmost hfits)

/-! ### What a run goes on with -/

/-- **One call** on a bridge does not change the rate of the mixer. -/
theorem Bridge.rate_lasting (rate : Float) : Lasting (·.synth.mixer.rate = rate) := by
  intro b heap c h
  cases c with
  | play frequency volume =>
      obtain ⟨requests, f, hplay⟩ | ⟨requests, log, hplay⟩ := b.pool.play_cases b.synth frequency volume
      · simp only [act, play, hplay]
        exact h
      · simp only [act, play, hplay]
        exact h
  | dropAll =>
      simp only [act, dropAll, Pool.dropAll, Mixer.foldl_stop]
      exact h
  | close =>
      simp only [act, close, dropAll, Pool.dropAll, Mixer.foldl_stop]
      exact h
  | bind m =>
      simp only [act, bind]
      split_ifs <;> exact h
  | log level address length =>
      simp only [act, log_fst]
      exact h
  | importFile dest =>
      simp only [act, importFile_fst]
      exact h
  | giveFile na nl ta tl =>
      obtain ⟨deliveries, e | e⟩ := giveFile_fst b heap na nl ta tl
      · simp only [act, e]
        exact h
      · simp only [act, e]
        exact h
  | _ => exact h

theorem Bridge.rate_close (b : Bridge) : b.close.1.synth.mixer.rate = b.synth.mixer.rate :=
  rate_lasting b.synth.mixer.rate b {} .close rfl

/-- Rendering a frame renders its samples, whether they are recorded or not. -/
theorem Run.mixer_render (r : Run) (samples : Int) :
    (r.render samples).1.bridge.synth.mixer = (r.bridge.synth.mixer.render samples.toNat).1 := by
  unfold Run.render
  cases r.session.recording with
  | none => rfl
  | some recording => exact Recording.mixer_capture _ _ _

/-- The run has the settings of the session, and its mixer the rate. -/
structure Run.Continues (s : Session) (r : Run) : Prop where
  settings : r.session.settings = s.settings
  rate : r.bridge.synth.mixer.rate = s.mixer.rate

namespace Run.Continues

variable {s : Session} {r : Run}

theorem arrive (h : r.Continues s) (a : Arrival) : (r.arrive a).Continues s := by
  unfold Run.arrive
  split_ifs <;> exact ⟨h.settings, h.rate⟩

theorem dispatch (h : r.Continues s) (n : Nat) : (r.dispatch n).Continues s := ⟨h.settings, h.rate⟩

theorem call (h : r.Continues s) : r.call.1.Continues s := by
  unfold Run.call
  simp only
  split_ifs
  · exact h
  · exact ⟨h.settings,
      r.session.engine.keeps_call (Bridge.rate_lasting s.mixer.rate) h.rate r.number _⟩

theorem render (h : r.Continues s) (samples : Int) : (r.render samples).1.Continues s := by
  refine ⟨h.settings, ?_⟩
  rw [r.mixer_render]
  exact h.rate

/-- **All frames of a run** keep the settings and the rate. -/
theorem loop (h : r.Continues s) (pace : Pace) (interrupt : FileTree → Bool)
    (arrivals : Nat → List Arrival) (frames n : Nat) :
    ((Run.loop pace interrupt arrivals).run frames n r).1.Continues s := by
  refine FrameLoop.run_keeps (P := Run.Continues s) _ ?_ (fun _ _ h => h.call)
    (fun _ h => h.render pace.samples) frames n h
  intro n r h
  have harrived : ((arrivals n).foldl Run.arrive r).Continues s :=
    List.foldlRecOn (arrivals n) Run.arrive h fun _ h a _ => h.arrive a
  exact harrived.dispatch n

theorem conclude (h : r.Continues s) (stop : Option Stop) : (r.conclude stop).1.Continues s := by
  rcases stop with _ | _ | _ | _ <;> exact ⟨h.settings, h.rate⟩

theorem drive (h : r.Continues s) (patience : Nat) (interrupt : FileTree → Bool)
    (arrivals : Nat → List Arrival) : (r.drive patience interrupt arrivals).1.Continues s := by
  unfold Run.drive
  cases r.pace with
  | error f => split_ifs <;> exact ⟨h.settings, h.rate⟩
  | ok pace =>
      simp only
      split_ifs
      · exact ⟨h.settings, h.rate⟩
      · exact (h.loop pace interrupt arrivals _ _).conclude _
      · exact (h.loop pace interrupt arrivals _ _).conclude _

end Run.Continues

namespace Session

/-! ### One run after the other -/

/-- The second session has the settings of the first, and its mixer the rate. -/
structure Continues (s s' : Session) : Prop where
  settings : s'.settings = s.settings
  rate : s'.mixer.rate = s.mixer.rate

variable {s s' : Session}

theorem continues_finish {r : Run} (h : r.Continues s) : s.Continues (finish r).1 :=
  ⟨h.settings, (r.bridge.rate_close).trans h.rate⟩

/-- **Beginning a run** keeps the settings, the rate and the recording. -/
theorem begin_continues (s : Session) (target : String) :
    (∃ s' f log, s.begin target = (s', .error f, log) ∧ s.Continues s' ∧
      s'.recording = s.recording) ∨
    (∃ s' r log, s.begin target = (s', .ok r, log) ∧ r.Continues s ∧
      r.session.recording = s.recording) := by
  rcases hr : s.catalog.resolve s.engine s.files target with ⟨catalog, engine, f | g, log⟩
  · exact .inl ⟨_, f, _, begin_unresolved hr, ⟨rfl, rfl⟩, rfl⟩
  · obtain ⟨hrate, -⟩ :=
      engine.keeps_instantiate (Bridge.rate_lasting s.mixer.rate) (b := s.bridge) rfl g.request
    rcases hi : engine.instantiate s.bridge g.request with ⟨engine', b, f | n, more⟩
    · rw [hi] at hrate
      exact .inl ⟨_, f, _, begin_failed hr hi, ⟨rfl, b.rate_close.trans hrate⟩, rfl⟩
    · rw [hi] at hrate
      obtain ⟨told, hbegin⟩ := begin_made hr hi
      exact .inr ⟨_, _, told, hbegin s.past, ⟨rfl, hrate⟩, rfl⟩

theorem continues_of_begin {s s' : Session} {target : String} {r : Run} {log : Journal}
    (h : s.begin target = (s', .ok r, log)) :
    r.Continues s ∧ r.session.recording = s.recording := by
  obtain ⟨_, _, _, hcase, -⟩ | ⟨_, _, _, hcase, hcontinues⟩ := s.begin_continues target
  · rw [hcase] at h
    cases h
  · rw [hcase] at h
    cases h
    exact hcontinues

/-- **A run** keeps the settings and the rate. -/
theorem continues_run (s : Session) (patience : Nat) (interrupt : FileTree → Bool)
    (target : String) (arrivals : Nat → List Arrival) :
    s.Continues (s.run patience interrupt target arrivals).1 := by
  unfold Session.run
  obtain ⟨s', f, log, hbegin, h, -⟩ | ⟨s', r, log, hbegin, h, -⟩ := s.begin_continues target
  · rw [hbegin]
    exact h
  · rw [hbegin]
    exact continues_finish (h.drive patience interrupt arrivals)

/-- The mixer runs at the rate that the settings ask for. -/
def Steady (s : Session) : Prop := s.mixer.rate = (Mixer.new s.settings.audio.sampleRate).rate

theorem Steady.of_continues (h : s.Steady) (hs : s.Continues s') : s'.Steady := by
  rw [Steady, hs.rate, hs.settings]
  exact h

theorem steady_start {settings : Settings} {parts : Parts} {files t : FileTree} {log : Journal}
    (h : start settings parts files = (t, .ok s, log)) : s.settings = settings ∧ s.Steady := by
  obtain ⟨s₀, hsetup, hrecording⟩ := exists_of_start h
  obtain ⟨_, _, hs⟩ := s₀.startRecording_fst
  rw [hrecording] at hs
  obtain rfl := hs
  refine ⟨hsetup.chosen, ?_⟩
  rw [Steady, hsetup.mixer, hsetup.chosen]

theorem Reachable.steady (h : s.Reachable) : s.Steady := by
  induction h with
  | start h => exact (steady_start h).2
  | run patience interrupt target arrivals _ ih => exact ih.of_continues (continues_run _ _ _ _ _)
  | arrive a _ ih => exact ih
  | files t _ ih => exact ih

/-- **The mixer of a run** runs at the rate that was asked for, if the settings were accepted. -/
theorem Steady.sampleRate_eq (h : s.Steady) (hsound : s.settings.Sound) {r : Run}
    (hr : r.Continues s) : r.bridge.synth.mixer.sampleRate = s.settings.audio.sampleRate := by
  rw [← Mixer.sampleRate_new hsound.rate.positive hsound.rate.most, Mixer.sampleRate, hr.rate, h]
  rfl

/-- **The frames of a run** are paced, if the settings were accepted. -/
theorem Steady.pace_eq (h : s.Steady) (hsound : s.settings.Sound) {r : Run} (hr : r.Continues s) :
    r.pace = .ok ⟨s.settings.audio.sampleRate / s.settings.frame.fps,
      ⟨Pace.second / s.settings.frame.fps⟩⟩ := by
  rw [Run.pace, h.sampleRate_eq hsound hr, hr.settings]
  exact hsound.pace_eq.1

end Session
end GuestHost
