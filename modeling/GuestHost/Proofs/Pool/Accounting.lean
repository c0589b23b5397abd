import GuestHost.Proofs.Pool.Instrument
import Mathlib.Algebra.Order.Ring.Int
import Mathlib.Data.List.DropRight
import Mathlib.Data.List.Nodup

/-! # The accounts of a pool

A pool is asked to play tones and to drop all voices, any number of times and in any order
(`Pool.Call`), and every call leaves an entry in the history (`Pool.Entry`).

* **Voices.**  The voices that an instrument started for the pool are those that it stopped, followed by
  those that the pool has (`Chorus.Accounted.ledger`).  So none is stopped twice, and none before its
  drop.
* **Counting.**  The pool has a voice for each play that succeeded since the last drop
  (`Chorus.Accounted.size`), and since then it warned of every full multiple of the number of voices it
  was configured with (`Chorus.Accounted.journal`).

One call keeps these accounts (`Chorus.Accounted.act`), hence so does a whole run
(`Chorus.Accounted.run`). -/

namespace GuestHost

namespace Pool

/-- What can be asked of a pool. -/
inductive Call
  | play (frequency volume : Float)
  | dropAll

/-- What a pool answers. -/
inductive Answer
  | played (result : Except Fault Unit)
  | dropped (voices : Nat)

/-- What came of a call. -/
structure Entry where
  answer : Answer
  journal : Journal

/-- What came of calls, oldest first. -/
abbrev History := List Entry

/-- Whether all voices were dropped. -/
def Entry.isDrop (e : Entry) : Bool :=
  match e.answer with
  | .dropped _ => true
  | .played _ => false

/-- Whether a tone was started. -/
def Entry.isSuccess (e : Entry) : Bool :=
  match e.answer with
  | .played (.ok _) => true
  | _ => false

namespace History

/-- What came since all voices were dropped last; everything if they never were. -/
def sinceDrop (h : History) : History := h.rtakeWhile fun e => !e.isDrop

/-- How many tones were started. -/
def successes (h : History) : Nat := h.countP Entry.isSuccess

/-- The records that were written. -/
def journal (h : History) : Journal := h.flatMap Entry.journal

theorem sinceDrop_concat_played (h : History) (result : Except Fault Unit) (log : Journal) :
    sinceDrop (h ++ [⟨.played result, log⟩]) = h.sinceDrop ++ [⟨.played result, log⟩] :=
  List.rtakeWhile_concat_pos _ _ _ rfl

theorem sinceDrop_concat_dropped (h : History) (n : Nat) (log : Journal) :
    sinceDrop (h ++ [⟨.dropped n, log⟩]) = [] :=
  List.rtakeWhile_concat_neg _ _ _ (by simp [Entry.isDrop])

end History

/-- Carries out a call on a pool that plays through a synth. -/
def act (t : Pool × Synth) : Call → (Pool × Synth) × Entry
  | .play frequency volume =>
    let (p, s, result, log) := t.1.play t.2 frequency volume
    ((p, s), ⟨.played result, log⟩)
  | .dropAll =>
    let (p, s, n, log) := t.1.dropAll t.2
    ((p, s), ⟨.dropped n, log⟩)

section
variable {τ υ : Type}

/-- Carries out calls one after the other. -/
def run (act : τ → Call → τ × Entry) : τ → List Call → τ × History
  | t, [] => (t, [])
  | t, call :: calls =>
    let (t, e) := act t call
    let (t, h) := run act t calls
    (t, e :: h)

/-- Runs agree when their calls do. -/
theorem run_map {act : τ → Call → τ × Entry} {act' : υ → Call → υ × Entry} {f : τ → υ}
    (h : ∀ t call, act' (f t) call = (f (act t call).1, (act t call).2)) (t : τ) (calls : List Call) :
    run act' (f t) calls = (f (run act t calls).1, (run act t calls).2) := by
  induction calls generalizing t with
  | nil => rfl
  | cons call calls ih => simp only [run, h, ih]

end

end Pool

namespace Chorus

open Pool (Call History Entry)

variable {σ ν : Type} (I : Instrument σ ν)

/-- Carries out a call on a chorus. -/
def act (t : Chorus ν × σ) : Call → (Chorus ν × σ) × Entry
  | .play frequency volume =>
    let (c, s, result, log) := t.1.play I t.2 frequency volume
    ((c, s), ⟨.played result, log⟩)
  | .dropAll =>
    let (c, s, n, log) := t.1.dropAll I t.2
    ((c, s), ⟨.dropped n, log⟩)

/-- A pool on a synth runs as a chorus does. -/
theorem run_pool (t : Chorus Nat × Synth) (calls : List Call) :
    Pool.run Pool.act (t.1.pool, t.2) calls =
      (((Pool.run (act Synth.instrument) t calls).1.1.pool,
        (Pool.run (act Synth.instrument) t calls).1.2),
        (Pool.run (act Synth.instrument) t calls).2) := by
  refine Pool.run_map (f := fun t : Chorus Nat × Synth => (t.1.pool, t.2)) (fun t call => ?_) t calls
  cases call with
  | play frequency volume =>
      simp only [Pool.act, Pool.play_eq]
      rfl
  | dropAll =>
      simp only [Pool.act, Pool.dropAll_eq]
      rfl

/-- A chorus runs the same without books. -/
theorem run_unnoted (t : Chorus ν × Books σ ν) (calls : List Call) :
    Pool.run (act I) (t.1, t.2.state) calls =
      (((Pool.run (act I.noting) t calls).1.1, (Pool.run (act I.noting) t calls).1.2.state),
        (Pool.run (act I.noting) t calls).2) := by
  refine Pool.run_map (f := fun t : Chorus ν × Books σ ν => (t.1, t.2.state)) (fun t call => ?_)
    t calls
  cases call with
  | play frequency volume => simp only [act, unnoted_play]
  | dropAll => simp only [act, unnoted_dropAll]

/-! ### Warnings -/

/-- Warnings for all multiples of a number of voices up to another. -/
def growths (step n : Nat) : Journal :=
  (List.range (n / step)).map fun k => growth ((k + 1) * step)

theorem growths_succ (step n : Nat) :
    growths step (n + 1) = growths step n ++ if step ∣ n + 1 then [growth (n + 1)] else [] := by
  unfold growths
  rw [Nat.succ_div]
  split_ifs with h
  · have hmultiple : (n / step + 1) * step = n + 1 := by
      have hdiv : (n + 1) / step = n / step + 1 := by rw [Nat.succ_div, if_pos h]
      rw [← hdiv, Nat.div_mul_cancel h]
    rw [List.range_succ, List.map_append, List.map_singleton, hmultiple]
  · rw [Nat.add_zero, List.append_nil]

/-- A warning is due just at the multiples. -/
theorem warns_succ_iff (p : Pool) (n : Nat) :
    p.warns (n + 1) = true ↔ p.config.warnVoices.toNat ∣ n + 1 := by
  rw [Pool.warns, Bool.and_eq_true, decide_eq_true_eq, decide_eq_true_eq,
    ← Int.dvd_iff_emod_eq_zero]
  by_cases hpos : 0 < p.config.warnVoices
  · obtain ⟨w, hw⟩ := Int.eq_ofNat_of_zero_le hpos.le
    rw [hw] at hpos ⊢
    rw [and_iff_right hpos, Int.toNat_natCast]
    exact Int.natCast_dvd_natCast
  · -- Nothing but zero is a multiple of zero.
    rw [Int.toNat_of_nonpos (not_lt.mp hpos)]
    simp [hpos]

theorem growthLog_eq {c : Chorus ν} {n : Nat} (h : c.size = n + 1) :
    c.growthLog = if c.config.warnVoices.toNat ∣ n + 1 then [growth (n + 1)] else [] := by
  rw [growthLog, h]
  simp only [warns_succ_iff, bounds]

/-! ### Accounts -/

/-- A chorus and the books of its instrument are as the history says. -/
structure Accounted (config : PoolConfig) (t : Chorus ν × Books σ ν) (h : History) : Prop where
  warnVoices : t.1.config.warnVoices = config.warnVoices
  size : t.1.size = h.sinceDrop.successes
  /-- What was started was stopped, or the pool has it still. -/
  ledger : t.2.started = t.2.stopped ++ t.1.voices
  journal : h.sinceDrop.journal = growths config.warnVoices.toNat t.1.size

namespace Accounted

variable {I} {config : PoolConfig} {t : Chorus ν × Books σ ν} {h : History}

theorem new (config : PoolConfig) (s : σ) :
    Accounted config ((Chorus.new config : Chorus ν), ({ state := s } : Books σ ν)) [] := by
  refine ⟨?_, rfl, rfl, ?_⟩
  · unfold Chorus.new Pool.new
    split_ifs <;> rfl
  · simp [History.sinceDrop, History.journal, growths, Chorus.new, Chorus.size]

/-- **A play that fails** does not count. -/
theorem refused (ha : Accounted config t h) (s : σ) (f : Fault) :
    Accounted config (t.1, { t.2 with state := s }) (h ++ [⟨.played (.error f), []⟩]) := by
  refine ⟨ha.warnVoices, ?_, ha.ledger, ?_⟩
  · rw [History.sinceDrop_concat_played, History.successes, List.countP_append, ha.size]
    rfl
  · rw [History.sinceDrop_concat_played, History.journal, List.flatMap_append, ← ha.journal]
    simp [History.journal]

/-- **A play that succeeds** counts as one, and may bring a warning. -/
theorem started (ha : Accounted config t h) (s : σ) (v : ν) :
    let d : Chorus ν := { t.1 with voices := t.1.voices ++ [v] }
    Accounted config (d, { t.2 with state := s, started := t.2.started ++ [v] })
      (h ++ [⟨.played (.ok ()), d.growthLog⟩]) := by
  intro d
  have hsize : d.size = t.1.size + 1 := by simp [d, Chorus.size]
  refine ⟨ha.warnVoices, ?_, ?_, ?_⟩
  · rw [History.sinceDrop_concat_played, History.successes, List.countP_append, hsize, ha.size]
    rfl
  · rw [ha.ledger, List.append_assoc]
  · have hwarn : d.config.warnVoices = config.warnVoices := ha.warnVoices
    rw [History.sinceDrop_concat_played, History.journal, List.flatMap_append, hsize, growths_succ,
      ← ha.journal, growthLog_eq hsize, hwarn]
    simp [History.journal]

/-- **A drop** stops what the chorus has, and begins a new account. -/
theorem dropped (ha : Accounted config t h) (s : σ) (n : Nat) (log : Journal) :
    Accounted config ({ t.1 with voices := [] }, ⟨s, t.2.started, t.2.stopped ++ t.1.voices⟩)
      (h ++ [⟨.dropped n, log⟩]) := by
  refine ⟨ha.warnVoices, ?_, ?_, ?_⟩
  · rw [History.sinceDrop_concat_dropped]
    rfl
  · rw [ha.ledger, List.append_nil]
  · rw [History.sinceDrop_concat_dropped]
    simp [History.journal, growths, Chorus.size]

/-- **One call** keeps the accounts. -/
theorem act (ha : Accounted config t h) (call : Call) :
    Accounted config (Chorus.act I.noting t call).1 (h ++ [(Chorus.act I.noting t call).2]) := by
  cases call with
  | play frequency volume =>
      obtain ⟨s, v, hplay⟩ | ⟨s, f, hplay⟩ := t.1.play_noting_cases I t.2 frequency volume
      · simp only [Chorus.act, hplay]
        exact ha.started s v
      · simp only [Chorus.act, hplay]
        exact ha.refused s f
  | dropAll =>
      simp only [Chorus.act, dropAll_noting]
      exact ha.dropped _ _ _

/-- **A whole run** keeps the accounts. -/
theorem run (ha : Accounted config t h) (calls : List Call) :
    Accounted config (Pool.run (Chorus.act I.noting) t calls).1
      (h ++ (Pool.run (Chorus.act I.noting) t calls).2) := by
  induction calls generalizing t h with
  | nil => simpa [Pool.run] using ha
  | cons call calls ih =>
      have hnext := ih (ha.act (I := I) call)
      rwa [List.append_assoc] at hnext

end Accounted

/-- **Accounts of a pool.**  After any calls, on any instrument and with any configuration, the pool has
a voice for each play that succeeded since it dropped all voices last.  What its instrument was made to
start is what it was made to stop, followed by the voices of the pool, in the order in which they were
played; so, when voices can be told apart, none was stopped twice, and none that the pool still has.

A play of a frequency that cannot sound changes nothing, and a play that the instrument refuses changes
nothing but the state of the instrument; both fail, and do not count.  Every other play succeeds, and
the pool has one voice more.  A drop tells the number of voices, stops each of them once, in the order in
which they were played, and leaves none.

When the pool is to warn of its growth, the records since the last drop are a warning for each multiple
of `warnVoices` up to the number of plays that succeeded since then, and so there are `⌊n / warnVoices⌋`
of them; else there are none.

The same calls have the same outcome without books, and a pool that plays through a synth has the
outcome of a chorus on that synth. -/
theorem plays_and_drops_accounted (I : Instrument σ ν) (config : PoolConfig) (s : σ)
    (calls : List Call) :
    let r := Pool.run (act I.noting) (Chorus.new config, { state := s }) calls
    let c := r.1.1
    let b := r.1.2
    let since := r.2.sinceDrop
    (c.size = since.successes ∧ b.started = b.stopped ++ c.voices ∧
      (b.started.Nodup → b.stopped.Nodup ∧ b.stopped.Disjoint c.voices)) ∧
    (∀ frequency volume, ¬ Pool.isAudible frequency →
      c.play I.noting b frequency volume = (c, b, .error (.frequency frequency), [])) ∧
    (∀ frequency volume t f, Pool.isAudible frequency →
      I.start b.state frequency (c.bounds.gain volume) = (t, .error f) →
      c.play I.noting b frequency volume =
        (c, { b with state := t }, .error (.voice frequency f), [])) ∧
    (∀ frequency volume t v, Pool.isAudible frequency →
      I.start b.state frequency (c.bounds.gain volume) = (t, .ok v) →
      c.play I.noting b frequency volume =
        ({ c with voices := c.voices ++ [v] }, ⟨t, b.started ++ [v], b.stopped⟩, .ok (),
          growthLog { c with voices := c.voices ++ [v] })) ∧
    (c.dropAll I.noting b =
      ({ c with voices := [] },
        ⟨c.voices.foldl I.stop b.state, b.started, b.stopped ++ c.voices⟩, c.size, c.dropLog)) ∧
    (0 < config.warnVoices → since.journal = growths config.warnVoices.toNat since.successes ∧
      (since.journal.length : Int) = since.successes / config.warnVoices) ∧
    (config.warnVoices ≤ 0 → since.journal = []) ∧
    Pool.run (act I) (Chorus.new config, s) calls = ((c, b.state), r.2) ∧
    ∀ synth, Pool.run Pool.act (Pool.new config, synth) calls =
      let q := Pool.run (act Synth.instrument) (Chorus.new config, synth) calls
      ((q.1.1.pool, q.1.2), q.2) := by
  intro r c b since
  have ha : Accounted config r.1 r.2 := (Accounted.new config s).run calls
  have hjournal : since.journal = growths config.warnVoices.toNat since.successes := by
    rw [← ha.size]
    exact ha.journal
  refine ⟨⟨ha.size, ha.ledger, ?_⟩, ?_, ?_, ?_, ?_, ?_, ?_, ?_, ?_⟩
  · intro hdistinct
    rw [ha.ledger] at hdistinct
    exact ⟨hdistinct.of_append_left, List.disjoint_of_nodup_append hdistinct⟩
  · intro frequency volume haudible
    exact play_inaudible _ haudible
  · intro frequency volume t f haudible hstart
    exact play_refused haudible (Instrument.noting_refused hstart)
  · intro frequency volume t v haudible hstart
    exact play_started haudible (Instrument.noting_started hstart)
  · exact dropAll_noting I c b
  · intro hpos
    refine ⟨hjournal, ?_⟩
    have hwarn : ((config.warnVoices.toNat : Nat) : Int) = config.warnVoices :=
      Int.toNat_of_nonneg hpos.le
    rw [hjournal, growths, List.length_map, List.length_range, Int.natCast_ediv, hwarn]
  · intro hnone
    rw [hjournal, growths, Int.toNat_of_nonpos hnone, Nat.div_zero]
    rfl
  · exact run_unnoted I (Chorus.new config, { state := s }) calls
  · intro synth
    exact run_pool (Chorus.new config, synth) calls

/-- Of four tones one is refused and one cannot sound.  The other two bring a warning, and a drop stops
them. -/
theorem two_of_four_tones_sound :
    let synth : Synth := { refusal := fun k => if k = 1 then some (.plain "no device") else none }
    let config : PoolConfig := { warnVoices := 2 }
    let calls : List Call := [.play 440 0.5, .play 550 0.5, .play 0 0.5, .play 660 0.5]
    let r := Pool.run (act Synth.instrument.noting) (Chorus.new config, { state := synth }) calls
    r.1.1.voices = [0, 1] ∧ r.1.2.started = [0, 1] ∧ r.1.2.stopped = [] ∧
      (r.1.1.dropAll Synth.instrument.noting r.1.2).2.1.stopped = [0, 1] ∧
      r.2.sinceDrop.journal = [growth 2] := by
  intro synth config calls r
  have hvoices : r.1.1.voices = [0, 1] := by decide +kernel
  have hsuccesses : r.2.sinceDrop.successes = 2 := by decide +kernel
  obtain ⟨⟨-, hledger, -⟩, -, -, -, hdrop, hwarn, -⟩ :=
    plays_and_drops_accounted Synth.instrument config synth calls
  have hstopped : r.1.2.stopped = [] := by decide +kernel
  refine ⟨hvoices, ?_, hstopped, ?_, ?_⟩
  · rw [hledger, hstopped, hvoices]
    rfl
  · rw [hdrop, hstopped, hvoices]
    rfl
  · rw [(hwarn (by decide)).1, hsuccesses]
    simp [config, growths]

end Chorus
end GuestHost
