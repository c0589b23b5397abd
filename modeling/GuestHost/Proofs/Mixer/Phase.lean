import GuestHost.Proofs.Decimal.Value
import GuestHost.Proofs.Mixer.Voices
import Mathlib.Algebra.Order.Archimedean.Basic
import Mathlib.Data.Rat.Floor
import Mathlib.Tactic.Linarith

/-! # Phases

With every sample the phase of a voice moves on by a step, and one turn at most is taken off
(`Voice.phaseAfter`).  The mixer does so with doubles (`Mixer.voices_start_render`).  Here the phase is
told exactly, in turns: the step of a tone is its frequency divided by the sample rate.

* **Up to the sample rate** a step is a turn at most, and the phase is the fractional part of all
  steps together (`Voice.phaseAfter_of_le_one`).
* **Beyond the sample rate** one turn is not enough: every sample leaves what the step has more
  than a turn, and all of this adds up (`Voice.phaseAfter_of_one_lt`). -/

namespace GuestHost

namespace Voice

section
variable {α : Type} [Add α] [Sub α] [LE α] [DecidableRel (fun a b : α => a ≤ b)]

/-- The phase after a number of samples. -/
def phaseAfter (turn step : α) (n : ℕ) (phase : α) : α := (fun p => wrapped turn p step)^[n] phase

theorem phaseAfter_succ (turn step : α) (n : ℕ) (phase : α) :
    phaseAfter turn step (n + 1) phase = wrapped turn (phaseAfter turn step n phase) step :=
  Function.iterate_succ_apply' _ _ _

end

theorem iterate_advance (v : Voice) (n : ℕ) :
    advance^[n] v = { v with phase := phaseAfter turn v.step n v.phase } := by
  induction n with
  | zero => rfl
  | succ n ih => rw [Function.iterate_succ_apply', ih, phaseAfter_succ, advance]

/-! ### Exact phases -/

variable {step : ℚ}

/-- After a step of a turn at most it is enough to take off one turn. -/
theorem wrapped_eq_fract {p : ℚ} (hp : p ∈ Set.Ico 0 1) (hnonneg : 0 ≤ step) (hle : step ≤ 1) :
    wrapped 1 p step = Int.fract (p + step) := by
  obtain ⟨hlow, hhigh⟩ := hp
  by_cases hpast : 1 ≤ p + step
  · rw [wrapped, if_pos hpast, ← Int.fract_sub_one, eq_comm, Int.fract_eq_self]
    exact ⟨by linarith, by linarith⟩
  · rw [wrapped, if_neg hpast, eq_comm, Int.fract_eq_self]
    exact ⟨by linarith, not_le.mp hpast⟩

/-- **Steps of a turn at most.**  The phase is the fractional part of all steps together. -/
theorem phaseAfter_of_le_one (hnonneg : 0 ≤ step) (hle : step ≤ 1) (n : ℕ) :
    phaseAfter 1 step n 0 = Int.fract (n * step) := by
  induction n with
  | zero => simp [phaseAfter]
  | succ n ih =>
      have hwithin : Int.fract (n * step) ∈ Set.Ico (0 : ℚ) 1 :=
        ⟨Int.fract_nonneg _, Int.fract_lt_one _⟩
      rw [phaseAfter_succ, ih, wrapped_eq_fract hwithin hnonneg hle, Int.fract_eq_fract]
      refine ⟨-⌊n * step⌋, ?_⟩
      rw [Int.fract]
      push_cast
      ring

/-- **Steps of more than a turn.**  What they have more adds up. -/
theorem phaseAfter_of_one_lt (hlt : 1 < step) (n : ℕ) :
    phaseAfter 1 step n 0 = n * (step - 1) := by
  induction n with
  | zero => simp [phaseAfter]
  | succ n ih =>
      have hnonneg : 0 ≤ n * (step - 1) := mul_nonneg n.cast_nonneg (by linarith)
      rw [phaseAfter_succ, ih, wrapped, if_pos (by linarith)]
      push_cast
      ring

theorem forall_phaseAfter_mem_iff (hpos : 0 < step) :
    (∀ n, phaseAfter 1 step n 0 ∈ Set.Ico (0 : ℚ) 1) ↔ step ≤ 1 := by
  constructor
  · intro hstays
    by_contra hlt
    have hlt : 0 < step - 1 := by linarith
    obtain ⟨n, hn⟩ := exists_nat_ge (1 / (step - 1))
    have hleaves := (hstays n).2
    rw [phaseAfter_of_one_lt (by linarith)] at hleaves
    exact absurd ((div_le_iff₀ hlt).mp hn) (not_le.mpr hleaves)
  · intro hle n
    rw [phaseAfter_of_le_one hpos.le hle]
    exact ⟨Int.fract_nonneg _, Int.fract_lt_one _⟩

end Voice

namespace Mixer

/-! ### Rendering -/

theorem voices_renderOnto (n : ℕ) (vs : List Voice) (acc : Array Float32) :
    (renderOnto n vs acc).2 = vs.map Voice.advance^[n] := by
  induction n generalizing vs acc with
  | zero => simp [renderOnto]
  | succ n ih => rw [renderOnto, ih, List.map_map, Function.iterate_succ]

/-- A voice that is started now has moved on by so many samples when they are rendered. -/
theorem voices_start_render (m : Mixer) (frequency gain : Float) (n : ℕ) :
    ((m.start frequency gain).1.render n).1.voices = (m.render n).1.voices ++
      [{ m.next frequency gain with
          phase := Voice.phaseAfter Voice.turn (Voice.stepOf frequency m.rate) n 0 }] := by
  simp only [start_eq, render, voices_renderOnto, List.map_append, List.map_singleton,
    Voice.iterate_advance]
  rfl

/-- The sample rate at which a new mixer runs. -/
def effectiveRate (rate : Int) : Int := if rate ≤ 0 then standardRate else rate

theorem effectiveRate_pos (rate : Int) : 0 < effectiveRate rate := by
  unfold effectiveRate
  split_ifs with h
  · decide
  · exact Int.not_le.mp h

theorem rate_new (rate : Int) : (new rate).rate = Float.ofInt (effectiveRate rate) := rfl

end Mixer

/-- Frequencies that can sound are the positive ones. -/
theorem Pool.isAudible_iff (frequency : Float) :
    isAudible frequency ↔ ∃ f, Binary.value? frequency = some f ∧ 0 < f := by
  rw [← Binary.positive_iff]
  simp [isAudible, and_assoc]

/-- **Phases within a turn.**  A frequency that a pool takes is a positive number.  In exact
arithmetic the phase of its tone stays within one turn, however many samples are rendered, just when the
frequency is at most the sample rate.  Up to there the phase is the fractional part of all steps
together; beyond, every sample adds what the step has more than a turn.

The mixer moves the phases of its voices in the same way, with doubles, and its own rate is exact as
long as it fits in a significand. -/
theorem phase_within_turn_iff (rate : Int) {frequency : Float}
    (haudible : Pool.isAudible frequency) :
    let r : ℚ := Mixer.effectiveRate rate
    ∃ f : ℚ, Binary.value? frequency = some f ∧ 0 < f ∧
      ((∀ n, Voice.phaseAfter 1 (f / r) n 0 ∈ Set.Ico (0 : ℚ) 1) ↔ f ≤ r) ∧
      (f ≤ r → ∀ n : ℕ, Voice.phaseAfter 1 (f / r) n 0 = Int.fract (n * (f / r))) ∧
      (r < f → ∀ n : ℕ, Voice.phaseAfter 1 (f / r) n 0 = n * (f / r - 1)) ∧
      (∀ (m : Mixer) gain n, ((m.start frequency gain).1.render n).1.voices =
        (m.render n).1.voices ++ [{ m.next frequency gain with
          phase := Voice.phaseAfter Voice.turn (Voice.stepOf frequency m.rate) n 0 }]) ∧
      (Mixer.effectiveRate rate < 2 ^ 53 → Binary.value? (Mixer.new rate).rate = some r) := by
  intro r
  obtain ⟨f, hvalue, hpos⟩ := (Pool.isAudible_iff frequency).mp haudible
  have hrate : 0 < r := Int.cast_pos.mpr (Mixer.effectiveRate_pos rate)
  have hle : f / r ≤ 1 ↔ f ≤ r := div_le_one hrate
  have hstep : 0 < f / r := div_pos hpos hrate
  refine ⟨f, hvalue, hpos, ?_, ?_, ?_, ?_, ?_⟩
  · rw [Voice.forall_phaseAfter_mem_iff hstep, hle]
  · intro hmost
    exact Voice.phaseAfter_of_le_one hstep.le (hle.mpr hmost)
  · intro hbeyond
    exact Voice.phaseAfter_of_one_lt ((one_lt_div hrate).mpr hbeyond)
  · intro m gain n
    exact m.voices_start_render frequency gain n
  · intro hfits
    rw [Mixer.rate_new]
    exact Binary.value?_ofInt (Mixer.effectiveRate_pos rate) hfits

/-- A tone of about a third of the sample rate stays within one turn. -/
theorem third_of_rate_within_turn :
    Pool.isAudible 33 ∧
      ∀ n, Voice.phaseAfter 1 (33 / Mixer.effectiveRate 100 : ℚ) n 0 ∈ Set.Ico (0 : ℚ) 1 := by
  have haudible : Pool.isAudible 33 := by decide +kernel
  refine ⟨haudible, ?_⟩
  obtain ⟨f, hvalue, -, hiff, -⟩ := phase_within_turn_iff 100 haudible
  obtain rfl : f = 33 :=
    Option.some.inj (hvalue.symm.trans (Binary.value?_ofInt (n := 33) (by decide) (by decide)))
  exact hiff.mpr (by norm_num [Mixer.effectiveRate])

/-- A tone of `2 ^ 52` Hz, which a pool takes, leaves the turn with the first sample that is rendered
at 8 samples in a second. -/
theorem tone_beyond_rate_leaves_turn :
    Pool.isAudible 4503599627370496 ∧
      Binary.value? 4503599627370496 = some 4503599627370496 ∧
      Voice.phaseAfter 1 (4503599627370496 / Mixer.effectiveRate 8 : ℚ) 1 0 = 2 ^ 49 - 1 ∧
      Voice.phaseAfter 1 (4503599627370496 / Mixer.effectiveRate 8 : ℚ) 1 0 ∉
        Set.Ico (0 : ℚ) 1 := by
  have hphase :
      Voice.phaseAfter 1 (4503599627370496 / Mixer.effectiveRate 8 : ℚ) 1 0 = 2 ^ 49 - 1 := by
    rw [Voice.phaseAfter_of_one_lt (by norm_num [Mixer.effectiveRate])]
    norm_num [Mixer.effectiveRate]
  refine ⟨by decide +kernel, ?_, hphase, ?_⟩
  · exact Binary.value?_ofInt (n := 4503599627370496) (by decide) (by decide)
  · rw [hphase, Set.mem_Ico]
    norm_num

end GuestHost
