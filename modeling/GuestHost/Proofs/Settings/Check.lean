import GuestHost.Settings
import Mathlib.Tactic.SplitIfs

/-! # Settings that are accepted

Settings are accepted just if nothing is wrong with them (`Settings.check_eq_ok_iff`), and what that
means is told by `Settings.Sound`, a field for each thing that can be wrong. -/

namespace GuestHost

namespace Settings

/-- The two extensions can be told apart. -/
structure Distinct (f : FileSettings) : Prop where
  primary : f.primaryExt ≠ ""
  secondary : f.secondaryExt ≠ ""
  differ : f.primaryExt ≠ f.secondaryExt

/-- A frame takes at least one sample, and a second not too many. -/
structure Sampled (s : Settings) : Prop where
  positive : 0 < s.audio.sampleRate
  most : s.audio.sampleRate ≤ maxSampleRate
  frames : s.frame.fps ≤ s.audio.sampleRate

/-- Nothing is wrong with the settings. -/
structure Sound (s : Settings) : Prop where
  level : (LogLevel.ofName? s.logLevel).isSome
  fps : 0 < s.frame.fps
  limit : 0 ≤ s.frame.limit
  timeout : 0 ≤ s.module.executionTimeout.nanoseconds
  picker : (PickerKind.ofName? s.files.picker).isSome
  inbox : ¬ (s.files.picker = "inbox" ∧ s.files.inboxDir = "")
  extensions : Distinct s.files
  rate : Sampled s
  gain : ¬ s.audio.maxGain ≤ 0.0

variable {s : Settings}

theorem problemIf_eq_nil_iff {bad : Bool} {text : String} :
    problemIf bad text = [] ↔ ¬ bad := by
  cases bad <;> simp [problemIf]

theorem extensionProblems_eq_nil_iff {f : FileSettings} :
    extensionProblems f = [] ↔ Distinct f := by
  unfold extensionProblems
  split_ifs with hunset hsame
  · simp only [false_iff]
    exact fun h => hunset.elim h.primary h.secondary
  · simp only [false_iff]
    exact fun h => h.differ hsame
  · exact ⟨fun _ => ⟨fun h => hunset (.inl h), fun h => hunset (.inr h), hsame⟩, fun _ => rfl⟩

theorem rateProblems_eq_nil_iff : s.rateProblems = [] ↔ Sampled s := by
  unfold rateProblems
  simp only
  split_ifs with hnone hmany hframes
  · simp only [false_iff]
    exact fun h => Int.not_lt.mpr hnone h.positive
  · simp only [false_iff]
    exact fun h => Int.not_lt.mpr h.most hmany
  · simp only [false_iff]
    exact fun h => Int.not_lt.mpr h.frames hframes
  · exact ⟨fun _ => ⟨Int.not_le.mp hnone, Int.not_lt.mp hmany, Int.not_lt.mp hframes⟩,
      fun _ => rfl⟩

theorem problems_eq_nil_iff : s.problems = [] ↔ s.Sound := by
  unfold problems
  simp only [List.append_eq_nil_iff, problemIf_eq_nil_iff, extensionProblems_eq_nil_iff,
    rateProblems_eq_nil_iff, decide_eq_true_eq, Bool.and_eq_true, Int.not_le, Int.not_lt,
    ← Option.not_isSome, Bool.not_eq_true, Bool.not_eq_false']
  constructor
  · rintro ⟨⟨⟨⟨⟨⟨⟨⟨hl, hf⟩, hn⟩, ht⟩, hp⟩, hi⟩, he⟩, hr⟩, hg⟩
    refine ⟨?_, hf, hn, ht, hp, hi, he, hr, hg⟩
    split at hl
    · rename_i level hlevel
      rw [hlevel, Option.isSome_some]
    · cases hl
  · intro h
    refine ⟨⟨⟨⟨⟨⟨⟨⟨?_, h.fps⟩, h.limit⟩, h.timeout⟩, h.picker⟩, h.inbox⟩, h.extensions⟩, h.rate⟩,
      h.gain⟩
    obtain ⟨level, hlevel⟩ := Option.isSome_iff_exists.mp h.level
    rw [hlevel]

/-- **Settings are accepted** as they are, just if nothing is wrong with them. -/
theorem check_eq_ok_iff {t : Settings} : s.check = .ok t ↔ t = s ∧ s.Sound := by
  unfold check
  rcases hgather : Fault.gather s.problems with _ | f
  · rw [Fault.gather_eq_none_iff, problems_eq_nil_iff] at hgather
    simp only [Except.ok.injEq, hgather, and_true, eq_comm]
  · have hwrong : ¬ s.Sound := by
      rw [← problems_eq_nil_iff, ← Fault.gather_eq_none_iff, hgather]
      simp
    simp [hwrong]

theorem sound_standard : standard.Sound :=
  ⟨by decide +kernel, by decide, by decide, by decide, by decide, by decide,
    ⟨by decide, by decide, by decide⟩, ⟨by decide, by decide, by decide⟩, by decide⟩

end Settings
end GuestHost
