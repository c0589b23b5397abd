import GuestHost.Proofs.Bridge.Voices
import GuestHost.Proofs.Engine.Tenancy
import GuestHost.Proofs.Session.Isolation

/-! # Every run leaves the host clean

A session is clean (`Session.Clean`) when no tone sounds and its engine is idle.  It starts clean, and
every run leaves it clean, however the run ends.

* **During a run** (`Run.Tidy`) the guest's pool knows every voice that sounds and the engine serves
  the guest's instance.  Nothing that is done in a frame changes that, so closing the instance and the
  bridge is enough to clean up, after any frame.
* **Runs that do not begin** have nothing to close but the bridge, which the start functions of the
  guest may have used (`Session.Clean.begin_cases`).
* **Reachable sessions** (`Session.Reachable`) are those that come of starting a session and running
  guests one after the other, while choices arrive late and files change between the runs.  All of
  them are clean (`Session.Reachable.clean`), and the next run meets nothing that an earlier one left
  (`Session.runs_leave_the_host_clean`). -/

namespace GuestHost

/-! ### During a run -/

/-- The pool of the guest knows every voice that sounds, and the engine serves its instance. -/
structure Run.Tidy (r : Run) : Prop where
  voiced : r.bridge.Voiced
  serving : r.session.engine.Serving r.number

namespace Run.Tidy

variable {r : Run}

theorem arrive (h : r.Tidy) (a : Arrival) : (r.arrive a).Tidy := by
  unfold Run.arrive
  split_ifs
  · exact ⟨h.voiced.congr rfl rfl, h.serving⟩
  · exact ⟨h.voiced, h.serving⟩

theorem dispatch (h : r.Tidy) (n : Nat) : (r.dispatch n).Tidy :=
  ⟨h.voiced.congr rfl rfl, h.serving⟩

theorem call (h : r.Tidy) : r.call.1.Tidy := by
  unfold Run.call
  simp only
  split_ifs
  · exact h
  · exact ⟨r.session.engine.keeps_call Bridge.voiced_lasting h.voiced r.number _,
      h.serving.call r.bridge _⟩

theorem render (h : r.Tidy) (samples : Int) : (r.render samples).1.Tidy := by
  refine ⟨h.voiced.congr ?_ rfl, h.serving⟩
  unfold Run.render
  cases r.session.recording with
  | none => exact r.bridge.synth.mixer.ids_render _
  | some recording => exact Recording.ids_capture _ _ _

/-- **All frames of a run** keep it tidy. -/
theorem loop (h : r.Tidy) (pace : Pace) (interrupt : FileTree → Bool)
    (arrivals : Nat → List Arrival) (frames n : Nat) :
    ((Run.loop pace interrupt arrivals).run frames n r).1.Tidy := by
  refine FrameLoop.run_keeps (P := Run.Tidy) _ ?_ (fun _ _ h => h.call)
    (fun _ h => h.render pace.samples) frames n h
  intro n r h
  have harrived : ((arrivals n).foldl Run.arrive r).Tidy :=
    List.foldlRecOn (arrivals n) Run.arrive h fun _ h a _ => h.arrive a
  exact harrived.dispatch n

theorem conclude (h : r.Tidy) (stop : Option Stop) : (r.conclude stop).1.Tidy := by
  rcases stop with _ | _ | _ | _ <;> exact ⟨h.voiced, h.serving⟩

/-- **Driving a guest** keeps the run tidy, whichever way it stops. -/
theorem drive (h : r.Tidy) (patience : Nat) (interrupt : FileTree → Bool)
    (arrivals : Nat → List Arrival) : (r.drive patience interrupt arrivals).1.Tidy := by
  unfold Run.drive
  cases r.pace with
  | error f => split_ifs <;> exact ⟨h.voiced, h.serving⟩
  | ok pace =>
      simp only
      split_ifs
      · exact ⟨h.voiced, h.serving⟩
      · exact (h.loop pace interrupt arrivals _ _).conclude _
      · exact (h.loop pace interrupt arrivals _ _).conclude _

end Run.Tidy

/-! ### What a run fails with -/

/-- A loop stops for a sound that was not rendered only if rendering said so. -/
theorem FrameLoop.exists_of_unrendered {σ : Type} (l : FrameLoop σ) {frames n : Nat} {s : σ}
    {why : Fault} (h : (l.run frames n s).2 = some (.unrendered why)) :
    ∃ s', (l.render s').2 = some why := by
  induction frames generalizing n s with
  | zero => cases h
  | succ frames ih =>
      rw [run] at h
      split at h
      · rename_i s₁ stop hframe
        obtain rfl : stop = .unrendered why := Option.some.inj h
        unfold frame at hframe
        split at hframe
        · split_ifs at hframe <;> cases hframe
        · split at hframe
          · rename_i s₃ _ hrender
            cases hframe
            exact ⟨_, by rw [hrender]⟩
          · split_ifs at hframe <;> cases hframe
      · exact ih h

namespace Run

theorem render_fault {r : Run} {samples : Int} {f : Fault} (h : (r.render samples).2 = some f) :
    ∃ context cause, f = .within context cause := by
  unfold render at h
  cases hr : r.session.recording with
  | none =>
      rw [hr] at h
      cases h
  | some recording =>
      rw [hr] at h
      simp only [Recording.capture] at h
      split_ifs at h
      simp only [Recording.write] at h
      split at h
      · cases h
        exact ⟨_, _, rfl⟩
      · cases h

theorem conclude_fault {r : Run} {stop : Option Stop} {f : Fault}
    (h : (r.conclude stop).2 = some f) :
    (∃ n why, f = .frame n why) ∨ stop = some (.unrendered f) := by
  rcases stop with _ | ⟨n, why⟩ | ⟨why⟩ | _
  · cases h
  · exact .inl ⟨n, why, (Option.some.inj h).symm⟩
  · exact .inr (by rw [← Option.some.inj h])
  · cases h

theorem pace_fault {r : Run} {f : Fault} (h : r.pace = .error f) : ∃ why, f = .broken why := by
  unfold pace Pace.of at h
  simp only at h
  split_ifs at h <;> exact ⟨_, (Except.error.inj h).symm⟩

/-- A guest that came to life fails in a frame or in the recording of one, or the host breaks down. -/
theorem drive_fault {r : Run} {patience : Nat} {interrupt : FileTree → Bool}
    {arrivals : Nat → List Arrival} {f : Fault}
    (h : (r.drive patience interrupt arrivals).2 = some f) :
    (∃ n why, f = .frame n why) ∨ (∃ context cause, f = .within context cause) ∨
      ∃ why, f = .broken why := by
  have hunrendered : ∀ pace frames,
      ((loop pace interrupt arrivals).run frames 0 r).2 = some (.unrendered f) →
      ∃ context cause, f = .within context cause := by
    intro pace frames hstop
    obtain ⟨r', hr'⟩ := FrameLoop.exists_of_unrendered _ hstop
    exact render_fault hr'
  unfold drive at h
  rcases hpace : r.pace with f' | pace
  · rw [hpace] at h
    simp only at h
    split_ifs at h
    obtain rfl : f' = f := Option.some.inj h
    exact .inr (.inr (pace_fault hpace))
  · rw [hpace] at h
    simp only at h
    rw [← or_assoc]
    left
    split_ifs at h
    · refine (conclude_fault h).imp_right fun hstop => hunrendered pace patience ?_
      rcases hrun : ((loop pace interrupt arrivals).run patience 0 r).2 with _ | stop
      · rw [hrun] at hstop
        cases hstop
      · rwa [hrun] at hstop
    · exact (conclude_fault h).imp_right (hunrendered pace _)

end Run

/-! ### Between runs -/

/-- No tone sounds and the engine is idle. -/
structure Session.Clean (s : Session) : Prop where
  silent : s.mixer.voices = []
  idle : s.engine.Idle

namespace Session

variable {s : Session}

theorem Clean.voiced_bridge (h : s.Clean) : s.bridge.Voiced := by
  intro id hid
  have hsilent : s.bridge.synth.mixer.voices = [] := h.silent
  rw [hsilent] at hid
  cases hid

theorem clean_reclaim {b : Bridge} (hb : b.Voiced) (he : s.engine.Idle) : (s.reclaim b).1.Clean :=
  ⟨b.voices_close hb, he⟩

theorem clean_finish {r : Run} (h : r.Tidy) : (finish r).1.Clean :=
  clean_reclaim h.voiced h.serving.idle_closeInstance

/-- The guest of a run was brought to life on a fresh bridge, by an engine that nobody used. -/
def BegunFresh (s : Session) (r : Run) : Prop :=
  ∃ (engine : Engine) (log : Journal), engine.Idle ∧
    engine.instantiate s.bridge r.guest.request = (r.session.engine, r.bridge, .ok r.number, log)

/-- **Beginning a run** in a clean session either fails and leaves it clean, whatever the start
functions of the guest did, and not because the host functions are in use; or the run is tidy. -/
theorem Clean.begin_cases (h : s.Clean) (target : String) :
    (∃ s' f log, s.begin target = (s', .error f, log) ∧ s'.Clean ∧
      ∀ m id, f ≠ .instantiation m id .environmentInUse) ∨
    (∃ s' r log, s.begin target = (s', .ok r, log) ∧ r.Tidy ∧ s.BegunFresh r) := by
  have hloads := s.catalog.loads_resolve s.engine s.files target
  rcases hr : s.catalog.resolve s.engine s.files target with ⟨catalog, engine, f | g, log⟩
  · rw [hr] at hloads
    refine .inl ⟨_, f, _, begin_unresolved hr, ⟨h.silent, h.idle.loaded hloads.engine⟩, ?_⟩
    exact fun m id hf => hloads.fault m id .environmentInUse (congrArg _ hf)
  · rw [hr] at hloads
    have hidle := h.idle.loaded hloads.engine
    obtain ⟨hvoiced, hfree⟩ :=
      engine.keeps_instantiate Bridge.voiced_lasting h.voiced_bridge g.request
    rcases hi : engine.instantiate s.bridge g.request with ⟨engine', b, f | n, more⟩
    · rw [hi] at hvoiced hfree
      refine .inl ⟨_, f, _, begin_failed hr hi, clean_reclaim hvoiced (hidle.of_error hi), ?_⟩
      exact fun m id hf => hfree hidle.free m id (congrArg _ hf)
    · rw [hi] at hvoiced
      obtain ⟨told, hbegin⟩ := begin_made hr hi
      refine .inr ⟨_, _, told, hbegin s.past, ⟨hvoiced, hidle.serving_of_ok hi⟩, ?_⟩
      exact ⟨engine, more, hidle, hi⟩

/-- **A run** leaves a clean session clean, however it ends; and it is not refused because the host
functions are in use. -/
theorem Clean.run (h : s.Clean) (patience : Nat) (interrupt : FileTree → Bool) (target : String)
    (arrivals : Nat → List Arrival) :
    (s.run patience interrupt target arrivals).1.Clean ∧
      ∀ m id, (s.run patience interrupt target arrivals).2.1
        ≠ some (.instantiation m id .environmentInUse) := by
  unfold Session.run
  obtain ⟨s', f, log, hbegin, hclean, hfault⟩ | ⟨s', r, log, hbegin, htidy, -⟩ :=
    h.begin_cases target
  · rw [hbegin]
    exact ⟨hclean, fun m id hf => hfault m id (Option.some.inj hf)⟩
  · rw [hbegin]
    refine ⟨clean_finish (htidy.drive patience interrupt arrivals), fun m id hf => ?_⟩
    obtain ⟨_, _, heq⟩ | ⟨_, _, heq⟩ | ⟨_, heq⟩ := Run.drive_fault hf
    · cases heq
    · cases heq
    · cases heq

theorem startRecording_fst (s : Session) :
    ∃ files recording, s.startRecording.1 = { s with files, recording } := by
  unfold startRecording
  split_ifs
  · exact ⟨s.files, s.recording, rfl⟩
  · split
    · exact ⟨s.files, s.recording, rfl⟩
    · exact ⟨_, _, rfl⟩

/-- What a session was before its recording was started. -/
structure SetUp (settings : Settings) (parts : Parts) (files : FileTree) (s : Session) : Prop where
  chosen : s.settings = settings
  engine : ∃ t log, Engine.start settings.engineConfig parts.supply files = (t, .ok s.engine, log)
  mixer : s.mixer = Mixer.new settings.audio.sampleRate
  recording : s.recording = none

/-- A session that was started was set up, and then its recording was started. -/
theorem exists_of_start {settings : Settings} {parts : Parts} {files t : FileTree} {log : Journal}
    (h : start settings parts files = (t, .ok s, log)) :
    ∃ s₀, SetUp settings parts files s₀ ∧ s₀.startRecording = (s, none) := by
  unfold start at h
  split at h
  · cases h
  · rename_i files' engine log' hengine
    simp only at h
    split at h
    · cases h
    · rename_i s' hrecording
      split at h
      · cases h
      · cases h
        exact ⟨_, ⟨rfl, ⟨_, _, hengine⟩, rfl, rfl⟩, hrecording⟩

/-- **A session that was set up** is clean. -/
theorem clean_start {settings : Settings} {parts : Parts} {files t : FileTree} {log : Journal}
    (h : start settings parts files = (t, .ok s, log)) : s.Clean := by
  obtain ⟨s₀, hsetup, hrecording⟩ := exists_of_start h
  obtain ⟨_, _, hengine⟩ := hsetup.engine
  obtain ⟨_, _, hs⟩ := s₀.startRecording_fst
  rw [hrecording] at hs
  obtain rfl := hs
  exact ⟨congrArg Mixer.voices hsetup.mixer, Engine.idle_of_start hengine⟩

/-! ### One run after the other -/

/-- The sessions that come of starting one and running guests in it.  Between two runs a picker may
still deliver to a run that is over, and files may change. -/
inductive Reachable : Session → Prop
  | start {settings : Settings} {parts : Parts} {files t : FileTree} {s : Session} {log : Journal}
      (h : Session.start settings parts files = (t, .ok s, log)) : Reachable s
  | run {s : Session} (patience : Nat) (interrupt : FileTree → Bool) (target : String)
      (arrivals : Nat → List Arrival) (h : Reachable s) :
      Reachable (s.run patience interrupt target arrivals).1
  | arrive {s : Session} (a : Arrival) (h : Reachable s) : Reachable (s.arrive a)
  | files {s : Session} (files : FileTree) (h : Reachable s) : Reachable { s with files }

theorem Reachable.clean (h : s.Reachable) : s.Clean := by
  induction h with
  | start h => exact clean_start h
  | run patience interrupt target arrivals _ ih =>
      exact (ih.run patience interrupt target arrivals).1
  | arrive a _ ih => exact ⟨ih.silent, ih.idle⟩
  | files t _ ih => exact ⟨ih.silent, ih.idle⟩

theorem arriveAll_eq_withPast (late : List Arrival) (s : Session) :
    ∃ past, past.length = s.past.length ∧ late.foldl arrive s = s.withPast past := by
  induction late generalizing s with
  | nil => exact ⟨s.past, rfl, rfl⟩
  | cons a late ih =>
      obtain ⟨past, hlength, heq⟩ := ih (s.arrive a)
      refine ⟨past, ?_, heq⟩
      rw [hlength, Session.arrive, List.length_modify]

/-- **A run leaves the host clean, however it ends.**  After any runs no tone sounds, the host
functions are free and no instance is tracked.

So the next run is not refused because the host functions are in use.  Its guest starts on a bridge
where nothing was asked for, nothing is pending, nothing waits and no voice is held.  What arrives for
earlier runs, before it or while it goes on, changes neither how it ends nor what it says, nor anything
it leaves, its own exchange among them; only the exchanges of those runs can differ. -/
theorem runs_leave_the_host_clean (h : s.Reachable) :
    (s.mixer.active = 0 ∧ HostFunction.moduleName ∉ s.engine.registered ∧ s.engine.tracked = []) ∧
    (∀ patience interrupt target arrivals m id,
      (s.run patience interrupt target arrivals).2.1
        ≠ some (.instantiation m id .environmentInUse)) ∧
    (s.bridge.exchange.stage = .idle ∧ s.bridge.exchange.pending = none ∧
      s.bridge.exchange.queued = 0 ∧ s.bridge.pool.size = 0) ∧
    (∀ target s' r log, s.begin target = (s', .ok r, log) → s.BegunFresh r) ∧
    ∀ (late : List Arrival) patience interrupt target arrivals,
      let alone := s.run patience interrupt target (s.forNextRun arrivals)
      ∃ past, past.drop s.past.length = alone.1.past.drop s.past.length ∧
        (late.foldl arrive s).run patience interrupt target arrivals
          = (alone.1.withPast past, alone.2) := by
  have hclean := h.clean
  refine ⟨⟨?_, hclean.idle.free, hclean.idle.untracked⟩, ?_, ⟨rfl, rfl, rfl, rfl⟩, ?_, ?_⟩
  · rw [Mixer.active, hclean.silent, List.length_nil]
  · intro patience interrupt target arrivals
    exact (hclean.run patience interrupt target arrivals).2
  · intro target s' r log hbegin
    obtain ⟨_, _, _, hcase, -⟩ | ⟨_, _, _, hcase, -, hfresh⟩ := hclean.begin_cases target
    · rw [hcase] at hbegin
      cases hbegin
    · rw [hcase] at hbegin
      cases hbegin
      exact hfresh
  · intro late patience interrupt target arrivals
    obtain ⟨past, hlength, hlate⟩ := arriveAll_eq_withPast late s
    rw [hlate]
    exact s.run_withPast hlength patience interrupt target arrivals

/-- A guest whose start function plays a tone, asks for a file, which is delivered at once, and then
traps: the tone was started, and after the run nothing sounds or is tracked, and nothing waits for the
next guest. -/
theorem clean_after_trap_in_start :
    let play : Import := ⟨"env", "wasm_sound_play"⟩
    let ask : Import := ⟨"env", "wasm_request_file_import"⟩
    let restless : Function := { body := [.call play [.real 440, .real 1], .call ask [], .trap] }
    let files : FileTree :=
      { entries := [(["g.wasm"], .file (.module
          { imports := [play, ask], exports := [("_initialize", restless)] }))] }
    let parts : Parts := { picker := some (.custom fun _ => .delivers ⟨"a.l3", #[1]⟩) }
    ∃ s t log, start {} parts files = (t, .ok s, log) ∧
      let ended := s.run 0 (fun _ => false) "/g.wasm"
      ended.2.1.map Fault.message = some ("failed to instantiate module '/g.wasm' " ++
        "(instance: instance-0): wasm error: unreachable") ∧
      ended.1.mixer.started = 1 ∧ ended.1.past.map Exchange.queued = [1] ∧
      ended.1.mixer.active = 0 ∧ ended.1.engine.tracked = [] ∧
      ended.1.bridge.exchange.queued = 0 := by
  intro play ask restless files parts
  obtain ⟨s, t, log, hstart, hfault, hstarted, hqueued⟩ : ∃ s t log,
      start {} parts files = (t, .ok s, log) ∧
      (s.run 0 (fun _ => false) "/g.wasm").2.1.map Fault.message = some
        ("failed to instantiate module '/g.wasm' (instance: instance-0): wasm error: unreachable") ∧
      (s.run 0 (fun _ => false) "/g.wasm").1.mixer.started = 1 ∧
      (s.run 0 (fun _ => false) "/g.wasm").1.past.map Exchange.queued = [1] :=
    ⟨_, _, _, rfl, by decide +kernel, by decide +kernel, by decide +kernel⟩
  obtain ⟨⟨hactive, -, htracked⟩, -, ⟨-, -, hempty, -⟩, -⟩ :=
    runs_leave_the_host_clean (.run 0 (fun _ => false) "/g.wasm" (fun _ => []) (.start hstart))
  exact ⟨s, t, log, hstart, hfault, hstarted, hqueued, hactive, htracked, hempty⟩

end Session
end GuestHost
