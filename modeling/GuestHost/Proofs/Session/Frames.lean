import GuestHost.Proofs.FrameLoop.Beats
import GuestHost.Proofs.Session.Pace

/-! # The frames of a run

A run with a frame limit plays its frames one after the other: it applies the choices that wait, calls
the guest's frame function and renders as many samples as a frame has, once each.

* `Session.beats` are the notes that the frame loop of a run takes.
* **Calls.**  As long as the run is not interrupted, the guest's frame function is what is called
  (`Run.outcome_eq_call`).
* **Ends.**  A run whose settings were accepted ends after its last frame, or with the first call that
  fails, and not because the host breaks down (`Session.frames_follow_calls`). -/

namespace GuestHost

namespace Run

/-- What is done in the frames of a run. -/
def beats (r : Run) (patience : Nat) (interrupt : FileTree → Bool) (arrivals : Nat → List Arrival) :
    List Beat :=
  if !r.hasFrame then []
  else
    match r.pace with
    | .error _ => []
    | .ok pace =>
      let limit := r.session.settings.frame.limit.toNat
      (loop pace interrupt arrivals).notes (if limit = 0 then patience else limit) r

/-- The notes are those of the loop that drives the guest. -/
theorem drive_of_pace {r : Run} {pace : Pace} (hframe : r.hasFrame) (hpace : r.pace = .ok pace)
    (hlimit : 0 < r.session.settings.frame.limit.toNat) (patience : Nat)
    (interrupt : FileTree → Bool) (arrivals : Nat → List Arrival) :
    let l := loop pace interrupt arrivals
    let limit := r.session.settings.frame.limit.toNat
    r.drive patience interrupt arrivals = (l.run limit 0 r).1.conclude (l.run limit 0 r).2 ∧
      r.beats patience interrupt arrivals = l.notes limit r := by
  intro l limit
  have hlimit' : ¬ r.session.settings.frame.limit.toNat = 0 := by omega
  unfold drive beats
  simp only [hframe, hpace, hlimit', Bool.not_true, Bool.false_eq_true, if_false]
  exact ⟨rfl, rfl⟩

/-- A loop does not stop because the host breaks down. -/
theorem conclude_ne_broken {r : Run} {pace : Pace} {interrupt : FileTree → Bool}
    {arrivals : Nat → List Arrival} (frames : Nat) (why : Breakdown) :
    let ended := (loop pace interrupt arrivals).run frames 0 r
    (ended.1.conclude ended.2).2 ≠ some (.broken why) := by
  intro ended hfault
  obtain ⟨_, _, heq⟩ | hstop := conclude_fault hfault
  · cases heq
  · obtain ⟨r', hr'⟩ := FrameLoop.exists_of_unrendered _ hstop
    obtain ⟨_, _, heq⟩ := render_fault hr'
    cases heq

/-! ### Calls of the guest -/

/-- The second run is one of the same instance of the same guest. -/
def Same (r r' : Run) : Prop := r'.guest = r.guest ∧ r'.number = r.number

theorem Same.trans {r r' r'' : Run} (h : Same r r') (h' : Same r' r'') : Same r r'' :=
  ⟨h'.1.trans h.1, h'.2.trans h.2⟩

theorem same_arriveAll (r : Run) (as : List Arrival) : Same r (as.foldl arrive r) := by
  refine List.foldlRecOn (motive := Same r) as arrive ⟨rfl, rfl⟩ ?_
  intro r' h a _
  unfold arrive
  split_ifs <;> exact h

theorem same_call (r : Run) : Same r r.call.1 := by
  unfold call
  simp only
  split_ifs <;> exact ⟨rfl, rfl⟩

section loop
variable (pace : Pace) (interrupt : FileTree → Bool) (arrivals : Nat → List Arrival)

theorem same_dispatch (r : Run) (k : Nat) :
    Same r ((loop pace interrupt arrivals).dispatch k r) :=
  same_arriveAll r (arrivals k)

theorem same_before (r : Run) (k : Nat) : Same r ((loop pace interrupt arrivals).before r k) := by
  induction k with
  | zero => exact ⟨rfl, rfl⟩
  | succ k ih =>
      have hdispatched := same_dispatch pace interrupt arrivals
        ((loop pace interrupt arrivals).before r k) k
      have hcalled := same_call
        ((loop pace interrupt arrivals).dispatch k ((loop pace interrupt arrivals).before r k))
      exact (ih.trans hdispatched).trans hcalled

variable {pace interrupt arrivals}

/-- **The guest's frame function** is called, unless the run is interrupted. -/
theorem outcome_eq_call {r : Run} {k : Nat}
    (h : (loop pace interrupt arrivals).interrupted
      ((loop pace interrupt arrivals).outcome r k).1 = false) :
    let d := (loop pace interrupt arrivals).dispatch k ((loop pace interrupt arrivals).before r k)
    let c := d.session.engine.call d.bridge r.number r.guest.manifest.frame
    let o := (loop pace interrupt arrivals).outcome r k
    o.1.session.engine = c.1 ∧ o.1.bridge = c.2.1 ∧ ∀ why, o.2 = some why ↔ c.2.2.1 = .error why := by
  intro d c o
  obtain ⟨hguest, hnumber⟩ : Same r d :=
    (same_before pace interrupt arrivals r k).trans (same_dispatch pace interrupt arrivals _ k)
  have hcall : o = d.call := rfl
  have hgoes : (loop pace interrupt arrivals).interrupted d.call.1 = false := h
  rw [hcall]
  unfold call at hgoes ⊢
  simp only at hgoes ⊢
  split_ifs at hgoes ⊢ with hguard
  · -- A call that was not made leaves the interrupted run as it was.
    rw [Bool.and_eq_true] at hguard
    simp only [loop, hguard.1, Bool.true_or] at hgoes
    cases hgoes
  · rw [hguest, hnumber]
    refine ⟨rfl, rfl, fun why => ?_⟩
    cases (d.session.engine.call d.bridge r.number r.guest.manifest.frame).2.2.1 <;> simp

end loop
end Run

namespace Session

/-- What is done in the frames of a run of a guest. -/
def beats (s : Session) (patience : Nat) (interrupt : FileTree → Bool) (target : String)
    (arrivals : Nat → List Arrival := fun _ => []) : List Beat :=
  match (s.begin target).2.1 with
  | .error _ => []
  | .ok r => r.beats patience interrupt arrivals

/-- A run that begins is driven to its end. -/
theorem run_of_begin {s s' : Session} {target : String} {r : Run} {log : Journal}
    (h : s.begin target = (s', .ok r, log)) (patience : Nat) (interrupt : FileTree → Bool)
    (arrivals : Nat → List Arrival) :
    (s.run patience interrupt target arrivals).1
        = (finish (r.drive patience interrupt arrivals).1).1 ∧
      (s.run patience interrupt target arrivals).2.1 = (r.drive patience interrupt arrivals).2 ∧
      s.beats patience interrupt target arrivals = r.beats patience interrupt arrivals := by
  unfold Session.run beats
  rw [h]
  exact ⟨rfl, rfl, rfl⟩

/-- **A run ends with its last frame, or with the first call that fails.**  Let settings be accepted,
with a frame limit, and let a run begin of a guest that has a frame function.

Its mixer runs at the rate that was asked for, a frame has a sample at least and takes some time, and so
the host does not break down.  Rendering a frame renders its samples, be they recorded or not.

If the run is not interrupted and its sound can be rendered, it calls the guest's frame function once
in each frame, after applying once what waits and before rendering once.  With the first call that
fails it ends and tells the frame; the frames before it were played from beginning to end.  If no call
fails, all frames are played. -/
theorem frames_follow_calls {s s' : Session} {target : String} {r : Run} {log : Journal}
    (h : s.Reachable) (haccepted : s.settings.check = .ok s.settings)
    (hlimit : 0 < s.settings.frame.limit) (hbegin : s.begin target = (s', .ok r, log))
    (hframe : r.hasFrame) :
    let rate := s.settings.audio.sampleRate
    let fps := s.settings.frame.fps
    let limit := s.settings.frame.limit.toNat
    let pace : Pace := ⟨rate / fps, ⟨Pace.second / fps⟩⟩
    (r.bridge.synth.mixer.sampleRate = rate ∧ fps ≠ 0 ∧ 1 ≤ pace.samples ∧
      0 < pace.tick.nanoseconds ∧ r.pace = .ok pace) ∧
    ∀ patience interrupt arrivals,
      let fault := (s.run patience interrupt target arrivals).2.1
      let beats := s.beats patience interrupt target arrivals
      let l := Run.loop pace interrupt arrivals
      (∀ why, fault ≠ some (.broken why)) ∧
      (∀ r : Run, (l.render r).1.bridge.synth.mixer
        = (r.bridge.synth.mixer.render pace.samples.toNat).1) ∧
      (l.Undisturbed r limit →
        (∀ k < limit, l.Succeeds r k →
          let d := l.dispatch k (l.before r k)
          let c := d.session.engine.call d.bridge r.number r.guest.manifest.frame
          (l.outcome r k).1.session.engine = c.1 ∧ (l.outcome r k).1.bridge = c.2.1 ∧
            ∀ why, (l.outcome r k).2 = some why ↔ c.2.2.1 = .error why) ∧
        (∀ k < limit, ∀ why, l.Succeeds r k → (l.outcome r k).2 = some why →
          fault = some (.frame k why) ∧
            beats = (List.range k).flatMap Beat.whole ++ [.dispatched k, .called k]) ∧
        (l.Succeeds r limit →
          fault = none ∧ beats = (List.range limit).flatMap Beat.whole)) := by
  intro rate fps limit pace
  obtain ⟨-, hsound⟩ := Settings.check_eq_ok_iff.mp haccepted
  obtain ⟨hcontinues, -⟩ := continues_of_begin hbegin
  obtain ⟨-, hsamples, htick⟩ := hsound.pace_eq
  have hpace : r.pace = .ok pace := h.steady.pace_eq hsound hcontinues
  refine ⟨⟨h.steady.sampleRate_eq hsound hcontinues, ?_, hsamples, htick, hpace⟩, ?_⟩
  · exact Int.ne_of_gt hsound.fps
  intro patience interrupt arrivals fault beats l
  have hsettings : r.session.settings.frame.limit.toNat = limit := by rw [hcontinues.settings]
  obtain ⟨-, hfault, hbeats⟩ := run_of_begin hbegin patience interrupt arrivals
  obtain ⟨hdrive, hnotes⟩ := Run.drive_of_pace hframe hpace
    (by rw [hsettings]; exact Int.pos_iff_toNat_pos.mp hlimit) patience interrupt arrivals
  rw [hsettings] at hdrive hnotes
  have hfault' : fault = ((l.run limit 0 r).1.conclude (l.run limit 0 r).2).2 := by
    rw [← hdrive]
    exact hfault
  have hbeats' : beats = l.notes limit r := hbeats.trans hnotes
  refine ⟨fun why => ?_, fun r => r.mixer_render pace.samples, fun hundisturbed => ⟨?_, ?_, ?_⟩⟩
  · rw [hfault']
    exact Run.conclude_ne_broken limit why
  · exact fun k hk hcalls => Run.outcome_eq_call (hundisturbed.called k hk hcalls)
  · intro k hk why hcalls hfails
    rw [hfault', hbeats', FrameLoop.run_of_failure hundisturbed hk hcalls hfails]
    exact ⟨rfl, FrameLoop.notes_of_failure hundisturbed hk hcalls hfails⟩
  · intro hcalls
    rw [hfault', hbeats', FrameLoop.run_of_success hundisturbed (Nat.le_refl _) hcalls]
    exact ⟨rfl, FrameLoop.notes_of_success hundisturbed hcalls⟩

/-- A guest that asks for a file in every frame and traps once one has come, with a file that comes
before the second of three frames: the first frame is played, and the second call is the last. -/
theorem frames_until_file_comes :
    let ask : Import := ⟨"env", "wasm_request_file_import"⟩
    let kind : Import := ⟨"env", "wasm_file_import_type"⟩
    let eager : Function := { body := [.call ask [], .ifCall kind [.trap]] }
    let files : FileTree :=
      { entries := [(["g.wasm"], .file (.module
          { imports := [ask, kind], exports := [("frame", eager)] }))] }
    let settings : Settings :=
      { frame := { fps := 4000, limit := 3 }, audio := { sampleRate := 8000 } }
    let parts : Parts := { picker := some (.custom fun _ => .waits) }
    let arrivals : Nat → List Arrival := fun k => if k = 1 then [⟨0, ⟨"a.l3", #[1]⟩⟩] else []
    let never : FileTree → Bool := fun _ => false
    let l := Run.loop ⟨2, ⟨250000⟩⟩ never arrivals
    ∃ s t log s' r told, start settings parts files = (t, .ok s, log) ∧
      s.begin "/g.wasm" = (s', .ok r, told) ∧ s.settings.check = .ok s.settings ∧ r.hasFrame ∧
      l.Undisturbed r 3 ∧
      (∃ why, (s.run 0 never "/g.wasm" arrivals).2.1 = some (.frame 1 why) ∧
        why.message = "wasm error: unreachable") ∧
      s.beats 0 never "/g.wasm" arrivals
        = [.dispatched 0, .called 0, .rendered, .dispatched 1, .called 1] := by
  intro ask kind eager files settings parts arrivals never l
  obtain ⟨s, t, log, s', r, told, hstart, hbegin, haccepted, hlimit, hframe, hpace, hcalled, hplayed,
      hfirst, htrap⟩ :
      ∃ s t log s' r told, start settings parts files = (t, .ok s, log) ∧
        s.begin "/g.wasm" = (s', .ok r, told) ∧ s.settings.check = .ok s.settings ∧
        s.settings.frame.limit = 3 ∧ r.hasFrame ∧
        (⟨s.settings.audio.sampleRate / s.settings.frame.fps,
          ⟨Pace.second / s.settings.frame.fps⟩⟩ : Pace) = ⟨2, ⟨250000⟩⟩ ∧
        (∀ k < 2, l.interrupted (l.outcome r k).1 = false) ∧
        (∀ k < 1, (l.render (l.outcome r k).1).2 = none ∧ l.interrupted (l.before r (k + 1)) = false) ∧
        (∀ k < 1, (l.outcome r k).2 = none) ∧
        (l.outcome r 1).2.map Fault.message = some "wasm error: unreachable" :=
    ⟨_, _, _, _, _, _, rfl, rfl,
      Settings.check_eq_ok_iff.mpr ⟨rfl, { Settings.sound_standard with
        fps := by decide, limit := by decide, rate := ⟨by decide, by decide, by decide⟩ }⟩,
      rfl, by decide +kernel, by decide +kernel, by decide +kernel, by decide +kernel,
      by decide +kernel, by decide +kernel⟩
  obtain ⟨why, hwhy, hmessage⟩ := Option.map_eq_some_iff.mp htrap
  have hundisturbed : l.Undisturbed r 3 :=
    FrameLoop.undisturbed_of_failure hwhy (fun k hk => hcalled k (Nat.lt_succ_of_le hk)) hplayed 3
  have hends := (frames_follow_calls (.start hstart) haccepted (by rw [hlimit]; decide) hbegin
    hframe).2 0 never arrivals
  simp only [hlimit, hpace] at hends
  obtain ⟨-, -, hends⟩ := hends
  obtain ⟨-, hends, -⟩ := hends hundisturbed
  obtain ⟨hfault, hbeats⟩ := hends 1 (by decide) _ hfirst hwhy
  exact ⟨s, t, log, s', r, told, hstart, hbegin, haccepted, hframe, hundisturbed,
    ⟨why, hfault, hmessage⟩, hbeats⟩

end Session
end GuestHost
