import GuestHost.Proofs.Session.Isolation

/-! # What a frame loop does

In every frame the loop applies events, calls the guest and renders sound, in this order.  A loop that
notes down what it does (`FrameLoop.noting`) does the same as without the notes
(`FrameLoop.run_noting`), and so the notes tell what the parts of a loop were used for, how often and
in which order.

* **States.**  `FrameLoop.before` is the state before a frame, `FrameLoop.outcome` is what comes of the
  call in it.  They say nothing about how long the loop goes on.
* **Stopping.**  When nothing else stops the loop (`FrameLoop.Undisturbed`), it goes on until the first
  call that fails (`FrameLoop.run_of_failure`) or until its last frame (`FrameLoop.run_of_success`).
* **Notes.**  Up to there it applied events, called and rendered once in each frame
  (`FrameLoop.notes_of_failure`, `FrameLoop.notes_of_success`). -/

namespace GuestHost

/-- Something that a frame loop does. -/
inductive Beat
  | dispatched (frame : Nat)
  | called (frame : Nat)
  | rendered
  /-- The sound of the frame could not be rendered. -/
  | unrendered
deriving DecidableEq, Repr

/-- What is done in a frame from beginning to end. -/
def Beat.whole (frame : Nat) : List Beat := [.dispatched frame, .called frame, .rendered]

namespace FrameLoop

variable {σ : Type} (l : FrameLoop σ) (s : σ)

/-! ### Frame after frame -/

/-- The state before a frame. -/
def before : Nat → σ
  | 0 => s
  | k + 1 => (l.render (l.call k (l.dispatch k (before k))).1).1

/-- What comes of the call in a frame. -/
def outcome (k : Nat) : σ × Option Fault := l.call k (l.dispatch k (l.before s k))

/-- No call fails before a frame. -/
def Succeeds (k : Nat) : Prop := ∀ j < k, (l.outcome s j).2 = none

/-- In none of its frames is the loop interrupted, and the sound of all of them can be rendered. -/
structure Undisturbed (frames : Nat) : Prop where
  called : ∀ k < frames, l.Succeeds s k → l.interrupted (l.outcome s k).1 = false
  rendered : ∀ k < frames, l.Succeeds s (k + 1) →
    (l.render (l.outcome s k).1).2 = none ∧ l.interrupted (l.before s (k + 1)) = false

variable {l s} {frames k : Nat} {why : Fault}

theorem before_succ (k : Nat) : l.before s (k + 1) = (l.render (l.outcome s k).1).1 := rfl

theorem succeeds_succ_iff : l.Succeeds s (k + 1) ↔ l.Succeeds s k ∧ (l.outcome s k).2 = none := by
  unfold Succeeds
  rw [Nat.forall_lt_succ_right]

theorem Succeeds.of_le {j : Nat} (h : l.Succeeds s k) (hle : j ≤ k) : l.Succeeds s j :=
  fun i hi => h i (Nat.lt_of_lt_of_le hi hle)

/-- When a call fails, it does not matter what would come after it. -/
theorem undisturbed_of_failure (hfails : (l.outcome s k).2 = some why)
    (hcalled : ∀ j ≤ k, l.interrupted (l.outcome s j).1 = false)
    (hrendered : ∀ j < k, (l.render (l.outcome s j).1).2 = none ∧
      l.interrupted (l.before s (j + 1)) = false) (frames : Nat) : l.Undisturbed s frames := by
  have hlast : ∀ j, l.Succeeds s j → j ≤ k := by
    intro j hcalls
    refine Nat.not_lt.mp fun hlt => ?_
    have hnone := hcalls k hlt
    rw [hfails] at hnone
    cases hnone
  exact ⟨fun j _ hcalls => hcalled j (hlast j hcalls),
    fun j _ hcalls => hrendered j (hlast (j + 1) hcalls)⟩

theorem Undisturbed.frame_of_success (h : l.Undisturbed s frames) (hk : k < frames)
    (hcalls : l.Succeeds s (k + 1)) : l.frame k (l.before s k) = (l.before s (k + 1), none) := by
  obtain ⟨hrender, hgoes⟩ := h.rendered k hk hcalls
  have hcall := (succeeds_succ_iff.mp hcalls).2
  rw [before_succ] at hgoes ⊢
  unfold frame
  unfold outcome at *
  rcases hc : l.call k (l.dispatch k (l.before s k)) with ⟨t, f⟩
  rw [hc] at hcall hrender hgoes
  obtain rfl : f = none := hcall
  rcases hr : l.render t with ⟨u, f⟩
  simp only [hr] at hrender hgoes ⊢
  obtain rfl : f = none := hrender
  simp [hgoes]

/-- A frame whose call fails is the last. -/
theorem Undisturbed.frame_of_failure (h : l.Undisturbed s frames) (hk : k < frames)
    (hcalls : l.Succeeds s k) (hfails : (l.outcome s k).2 = some why) :
    l.frame k (l.before s k) = ((l.outcome s k).1, some (.failed k why)) := by
  have hgoes := h.called k hk hcalls
  unfold frame
  unfold outcome at *
  rcases hc : l.call k (l.dispatch k (l.before s k)) with ⟨t, f⟩
  rw [hc] at hfails hgoes
  obtain rfl : f = some why := hfails
  simp only [hgoes]
  rfl

/-! ### Stopping -/

theorem run_add (a b n : Nat) (s : σ) :
    l.run (a + b) n s =
      match l.run a n s with
      | (t, some stop) => (t, some stop)
      | (t, none) => l.run b (n + a) t := by
  induction a generalizing n s with
  | zero => rw [Nat.zero_add]; rfl
  | succ a ih =>
      rw [Nat.succ_add, run, run]
      rcases l.frame n s with ⟨t, stop | _⟩
      · simp only
        rw [ih, show n + 1 + a = n + (a + 1) by omega]
      · rfl

/-- **Frames whose calls succeed** follow one another. -/
theorem run_of_success (h : l.Undisturbed s frames) (hle : k ≤ frames) (hcalls : l.Succeeds s k) :
    l.run k 0 s = (l.before s k, none) := by
  induction k with
  | zero => rfl
  | succ k ih =>
      rw [run_add k 1, ih (by omega) (hcalls.of_le (by omega))]
      simp only [Nat.zero_add, run]
      rw [h.frame_of_success hle hcalls]

/-- **The first call that fails** stops the loop. -/
theorem run_of_failure (h : l.Undisturbed s frames) (hk : k < frames) (hcalls : l.Succeeds s k)
    (hfails : (l.outcome s k).2 = some why) :
    l.run frames 0 s = ((l.outcome s k).1, some (.failed k why)) := by
  obtain ⟨more, rfl⟩ : ∃ more, frames = k + (more + 1) := ⟨frames - k - 1, by omega⟩
  rw [run_add, run_of_success h (by omega) hcalls]
  simp only [Nat.zero_add, run]
  rw [h.frame_of_failure hk hcalls hfails]

/-! ### Notes -/

/-- The loop that notes down what it does. -/
def noting (l : FrameLoop σ) : FrameLoop (σ × List Beat) where
  dispatch n s := (l.dispatch n s.1, s.2 ++ [.dispatched n])
  call n s := (((l.call n s.1).1, s.2 ++ [.called n]), (l.call n s.1).2)
  render s :=
    (((l.render s.1).1, s.2 ++ [if (l.render s.1).2.isNone then .rendered else .unrendered]),
      (l.render s.1).2)
  interrupted s := l.interrupted s.1

/-- The notes of a loop. -/
def notes (l : FrameLoop σ) (frames : Nat) (s : σ) : List Beat := (l.noting.run frames 0 (s, [])).1.2

/-- **Taking notes** changes nothing. -/
theorem run_noting (l : FrameLoop σ) (frames n : Nat) (s : σ) (bs : List Beat) :
    ((l.noting.run frames n (s, bs)).1.1, (l.noting.run frames n (s, bs)).2) = l.run frames n s := by
  have halike : Alike (fun s t => s.1 = t) l.noting l := by
    refine ⟨?_, ?_, ?_, ?_⟩
    · rintro n s _ rfl
      rfl
    · rintro n s _ rfl
      exact ⟨rfl, rfl⟩
    · rintro s _ rfl
      exact ⟨rfl, rfl⟩
    · rintro s _ rfl
      rfl
  obtain ⟨hstate, hstop⟩ := halike.run frames n (s := (s, bs)) rfl
  exact Prod.ext hstate hstop

theorem before_noting_fst (l : FrameLoop σ) (s : σ) (bs : List Beat) (k : Nat) :
    (l.noting.before (s, bs) k).1 = l.before s k := by
  induction k with
  | zero => rfl
  | succ k ih =>
      rw [before, before, ← ih]
      rfl

theorem outcome_noting (l : FrameLoop σ) (s : σ) (bs : List Beat) (k : Nat) :
    l.noting.outcome (s, bs) k =
      (((l.outcome s k).1, (l.noting.before (s, bs) k).2 ++ [.dispatched k, .called k]),
        (l.outcome s k).2) := by
  unfold outcome
  rw [← before_noting_fst l s bs k]
  simp [noting]

theorem snd_render_noting {bs : List Beat} (h : (l.render s).2 = none) :
    (l.noting.render (s, bs)).1.2 = bs ++ [.rendered] := by
  simp [noting, h]

theorem succeeds_noting_iff {bs : List Beat} : l.noting.Succeeds (s, bs) k ↔ l.Succeeds s k := by
  simp only [Succeeds, outcome_noting]

theorem Undisturbed.noting (h : l.Undisturbed s frames) (bs : List Beat) :
    l.noting.Undisturbed (s, bs) frames := by
  refine ⟨fun k hk hcalls => ?_, fun k hk hcalls => ?_⟩
  · rw [outcome_noting]
    exact h.called k hk (succeeds_noting_iff.mp hcalls)
  · rw [before_succ, outcome_noting]
    exact h.rendered k hk (succeeds_noting_iff.mp hcalls)

/-- Before a frame stand the notes of the whole frames before it. -/
theorem before_noting (h : l.Undisturbed s frames) (hle : k ≤ frames) (hcalls : l.Succeeds s k) :
    l.noting.before (s, []) k = (l.before s k, (List.range k).flatMap Beat.whole) := by
  refine Prod.ext (l.before_noting_fst s [] k) ?_
  induction k with
  | zero => rfl
  | succ k ih =>
      have hrendered := (h.rendered k hle hcalls).1
      rw [before_succ, outcome_noting, snd_render_noting hrendered,
        ih (by omega) (hcalls.of_le (by omega)), List.range_succ, List.flatMap_append,
        List.append_assoc]
      rfl

/-- **All calls succeed**: every frame is played from beginning to end. -/
theorem notes_of_success (h : l.Undisturbed s frames) (hcalls : l.Succeeds s frames) :
    l.notes frames s = (List.range frames).flatMap Beat.whole := by
  rw [notes, run_of_success (h.noting []) (Nat.le_refl _) (succeeds_noting_iff.mpr hcalls),
    before_noting h (Nat.le_refl _) hcalls]

/-- **A call fails**: the frames before it are played from beginning to end, and with the call the
notes end. -/
theorem notes_of_failure (h : l.Undisturbed s frames) (hk : k < frames) (hcalls : l.Succeeds s k)
    (hfails : (l.outcome s k).2 = some why) :
    l.notes frames s = (List.range k).flatMap Beat.whole ++ [.dispatched k, .called k] := by
  have hnoted : (l.noting.outcome (s, []) k).2 = some why := by rw [outcome_noting, hfails]
  rw [notes, run_of_failure (h.noting []) hk (succeeds_noting_iff.mpr hcalls) hnoted, outcome_noting,
    before_noting h (Nat.le_of_lt hk) hcalls]

end FrameLoop
end GuestHost
