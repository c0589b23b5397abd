import GuestHost.Pool
import Mathlib.Data.List.Nodup

/-! # What happens to the voices of a mixer

A voice keeps its identity, its step and its gain for as long as it sounds; only its phase moves
(`Voice.tone`).

* **Stopping** takes voices out and leaves the others as they are, in their order
  (`Mixer.foldl_stop`).  As long as identities differ, stopping one takes out one voice at most
  (`Mixer.voices_stop_eq_eraseP`).
* **Rendering** moves the voices on and keeps their tones (`Mixer.tones_render`).  Without voices it
  gives zeros (`Mixer.render_of_silent`).  What is rendered in two parts is what is rendered at once
  (`Mixer.render_add`).
* **Pools** start voices through a synth, or do nothing (`Pool.play_cases`). -/

namespace GuestHost

/-- The voice as it was started. -/
def Voice.tone (v : Voice) : Voice := { v with phase := 0 }

namespace Mixer

/-- The voice that is started next. -/
def next (m : Mixer) (frequency gain : Float) : Voice :=
  { id := m.started, step := Voice.stepOf frequency m.rate, gain }

theorem start_eq (m : Mixer) (frequency gain : Float) :
    m.start frequency gain =
      ({ m with voices := m.voices ++ [m.next frequency gain], started := m.started + 1 },
        m.started) :=
  rfl

/-! ### Stopping -/

theorem foldl_stop (ids : List Nat) (m : Mixer) :
    ids.foldl stop m = { m with voices := m.voices.filter (·.id ∉ ids) } := by
  induction ids generalizing m with
  | nil => simp
  | cons id ids ih =>
      rw [List.foldl_cons, ih, stop, List.filter_filter]
      congr 1
      apply List.filter_congr
      intro v _
      simp [Bool.and_comm]

theorem voices_foldl_stop (ids : List Nat) (m : Mixer) :
    (ids.foldl stop m).voices = m.voices.filter (·.id ∉ ids) := by
  rw [foldl_stop]

theorem filter_ne_eq_eraseP {vs : List Voice} (h : (vs.map (·.id)).Nodup) (id : Nat) :
    vs.filter (·.id ≠ id) = vs.eraseP (·.id = id) := by
  induction vs with
  | nil => rfl
  | cons v vs ih =>
      rw [List.map_cons, List.nodup_cons] at h
      by_cases hv : v.id = id
      · -- The voice is found, and no other one has its identity.
        have hrest : vs.filter (·.id ≠ id) = vs := by
          rw [List.filter_eq_self]
          intro w hw
          rw [decide_eq_true_eq, ← hv]
          intro hsame
          exact h.1 (hsame ▸ List.mem_map_of_mem hw)
        rw [List.filter_cons_of_neg (by simpa using hv), hrest,
          List.eraseP_cons_of_pos (by simpa using hv)]
      · rw [List.filter_cons_of_pos (by simpa using hv), ih h.2,
          List.eraseP_cons_of_neg (by simpa using hv)]

/-- With one voice for an identity, looking for the first one is enough to stop it. -/
theorem voices_stop_eq_eraseP {m : Mixer} (h : (m.voices.map (·.id)).Nodup) (id : Nat) :
    (m.stop id).voices = m.voices.eraseP (·.id = id) :=
  filter_ne_eq_eraseP h id

/-! ### Rendering -/

theorem tones_renderOnto (n : Nat) (vs : List Voice) (acc : Array Float32) :
    (renderOnto n vs acc).2.map Voice.tone = vs.map Voice.tone := by
  induction n generalizing vs acc with
  | zero => rfl
  | succ n ih =>
      rw [renderOnto, ih, List.map_map]
      rfl

theorem tones_render (m : Mixer) (n : Nat) :
    (m.render n).1.voices.map Voice.tone = m.voices.map Voice.tone :=
  tones_renderOnto n m.voices #[]

theorem ids_eq_of_tones_eq {vs ws : List Voice} (h : vs.map Voice.tone = ws.map Voice.tone) :
    vs.map (·.id) = ws.map (·.id) := by
  have hids := congrArg (List.map (·.id)) h
  rwa [List.map_map, List.map_map] at hids

theorem ids_render (m : Mixer) (n : Nat) :
    (m.render n).1.voices.map (·.id) = m.voices.map (·.id) :=
  ids_eq_of_tones_eq (m.tones_render n)

theorem renderOnto_nil (n : Nat) (acc : Array Float32) :
    (renderOnto n [] acc).1 = acc ++ Array.replicate n (0.0 : Float).toFloat32 := by
  induction n generalizing acc with
  | zero => simp [renderOnto]
  | succ n ih =>
      rw [renderOnto, List.map_nil, ih, Array.replicate_succ']
      simp [sample]

theorem size_renderOnto (n : Nat) (vs : List Voice) (acc : Array Float32) :
    (renderOnto n vs acc).1.size = acc.size + n := by
  induction n generalizing vs acc with
  | zero => rfl
  | succ n ih =>
      rw [renderOnto, ih, Array.size_push]
      omega

theorem size_render (m : Mixer) (n : Nat) : (m.render n).2.size = n := by
  rw [render, size_renderOnto, Array.size_empty, Nat.zero_add]

theorem renderOnto_add (n k : Nat) (vs : List Voice) (acc : Array Float32) :
    renderOnto (n + k) vs acc = renderOnto k (renderOnto n vs acc).2 (renderOnto n vs acc).1 := by
  induction n generalizing vs acc with
  | zero => rw [Nat.zero_add, renderOnto]
  | succ n ih => rw [Nat.succ_add, renderOnto, ih, renderOnto]

theorem renderOnto_append (n : Nat) (vs : List Voice) (acc : Array Float32) :
    renderOnto n vs acc = (acc ++ (renderOnto n vs #[]).1, (renderOnto n vs #[]).2) := by
  induction n generalizing vs acc with
  | zero => simp [renderOnto]
  | succ n ih =>
      rw [renderOnto, ih, renderOnto, ih _ (#[].push _)]
      simp

/-- Samples rendered in two parts are the samples rendered at once, and leave the mixer the same. -/
theorem render_add (m : Mixer) (n k : Nat) :
    m.render (n + k) =
      (((m.render n).1.render k).1, (m.render n).2 ++ ((m.render n).1.render k).2) := by
  simp only [render, renderOnto_add]
  rw [renderOnto_append k]

theorem render_of_silent {m : Mixer} (h : m.voices = []) (n : Nat) :
    (m.render n).2 = Array.replicate n (0.0 : Float).toFloat32 := by
  have hnil := renderOnto_nil n #[]
  simpa [render, h] using hnil

end Mixer

/-! ### Pools -/

/-- A pool starts a voice of its own, or nothing sounds that did not sound before. -/
theorem Pool.play_cases (p : Pool) (s : Synth) (frequency volume : Float) :
    (∃ requests f, p.play s frequency volume = (p, { s with requests }, .error f, [])) ∨
    (∃ requests log, p.play s frequency volume =
      ({ p with voices := p.voices ++ [s.mixer.started] },
        { s with requests, mixer := (s.mixer.start frequency (p.gain volume)).1 }, .ok (), log)) := by
  unfold play
  split_ifs with haudible
  · unfold Synth.start
    cases s.refusal s.requests with
    | some f => exact .inl ⟨_, _, rfl⟩
    | none => exact .inr ⟨_, _, rfl⟩
  · exact .inl ⟨s.requests, _, rfl⟩

end GuestHost
