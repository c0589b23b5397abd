import GuestHost.Proofs.Mixer.Voices
import Mathlib.Data.List.DropRight
import Mathlib.Data.List.Range

/-! # Pools that share a mixer

Several pools play through one mixer, and voices are started on the mixer without a pool as well
(`Ensemble`).  Who has which voice can be read off what happened so far:

* A voice **sounds** when it was started and nothing that happened later ended it
  (`History.sounding`).  A voice of a pool is ended when its pool drops all voices, any other voice
  when it is stopped.
* A **pool** has the voices that it started since it dropped all voices last (`History.ofPool`).

One act keeps the mixer and the pools as the history says (`Kept.act`), hence so does a whole run
(`Kept.after`).  `voices_follow_history` is what comes of it: pools never meet, and one of them never
takes away, moves or changes the voices of another. -/

namespace GuestHost

/-- Pools that play through one mixer, and the voices that were started on it without a pool. -/
structure Ensemble where
  synth : Synth
  pools : List Pool := []
  /-- The voices that were started without a pool, oldest first. -/
  soloists : List Nat := []

namespace Ensemble

/-- A mixer on which nothing was started, and no pools yet.  The synth may refuse to start voices
for pools. -/
def new (rate : Int) (refusal : Nat → Option Fault) : Ensemble :=
  { synth := { mixer := .new rate, refusal } }

/-- The mixer that is shared. -/
def mixer (e : Ensemble) : Mixer := e.synth.mixer

/-- Puts another mixer in place. -/
def withMixer (e : Ensemble) (m : Mixer) : Ensemble := { e with synth := { e.synth with mixer := m } }

/-- What can be done with a shared mixer. -/
inductive Act
  /-- A new pool is to play through the mixer. -/
  | join (config : PoolConfig)
  /-- A pool plays a tone. -/
  | play (pool : Nat) (frequency volume : Float)
  /-- A pool drops all its voices. -/
  | dropAll (pool : Nat)
  /-- A voice is started without a pool. -/
  | start (frequency gain : Float)
  /-- One of the voices that were started without a pool is stopped, perhaps not for the first
  time. -/
  | stop (soloist : Nat)
  /-- Samples are rendered. -/
  | render (samples : Nat)

/-- Carries out an act.  Nothing is done for a pool or a voice that is not there. -/
def act (e : Ensemble) : Act → Ensemble
  | .join config => { e with pools := e.pools ++ [.new config] }
  | .play k frequency volume =>
    match e.pools[k]? with
    | none => e
    | some p =>
      let (p, synth, _) := p.play e.synth frequency volume
      { e with synth, pools := e.pools.set k p }
  | .dropAll k =>
    match e.pools[k]? with
    | none => e
    | some p =>
      let (p, synth, _) := p.dropAll e.synth
      { e with synth, pools := e.pools.set k p }
  | .start frequency gain =>
    let (m, id) := e.mixer.start frequency gain
    { e.withMixer m with soloists := e.soloists ++ [id] }
  | .stop j =>
    match e.soloists[j]? with
    | none => e
    | some id => e.withMixer (e.mixer.stop id)
  | .render n => e.withMixer (e.mixer.render n).1

/-- The ensemble after acts. -/
def after (e : Ensemble) (acts : List Act) : Ensemble := acts.foldl act e

/-! ### Histories -/

/-- A voice as it was started, with the pool that started it, if it was one. -/
structure Part where
  owner : Option Nat
  voice : Voice

/-- What can happen to voices. -/
inductive Happening
  /-- A voice was started. -/
  | started (part : Part)
  /-- A pool dropped all its voices. -/
  | dropped (pool : Nat)
  /-- A voice that was started without a pool was stopped. -/
  | stopped (id : Nat)

namespace Happening

/-- The voice that was started. -/
def started? : Happening → Option Part
  | started s => some s
  | _ => none

/-- Whether a happening ends a voice that sounds. -/
def ends : Happening → Part → Bool
  | started _, _ => false
  | dropped k, s => s.owner = some k
  | stopped id, s => s.owner = none && s.voice.id = id

/-- Whether a pool dropped all its voices. -/
def drops (k : Nat) : Happening → Bool
  | dropped j => j = k
  | _ => false

end Happening

/-- Happenings in the order in which they came. -/
abbrev History := List Happening

namespace History

/-- All voices that were ever started, oldest first. -/
def begun (h : History) : List Part := h.filterMap Happening.started?

/-- The voices that were started and that nothing ended later, oldest first. -/
def sounding : History → List Part
  | [] => []
  | x :: later => (x.started?.toList.filter fun s => !later.any (·.ends s)) ++ sounding later

/-- What happened since a pool dropped all its voices last; everything if it never did. -/
def sinceDrop (h : History) (k : Nat) : History := h.rtakeWhile fun x => !x.drops k

/-- The voices that a pool started since it dropped all its voices last, oldest first. -/
def ofPool (h : History) (k : Nat) : List Part :=
  (h.sinceDrop k).begun.filter (·.owner = some k)

theorem begun_concat (h : History) (x : Happening) :
    begun (h ++ [x]) = h.begun ++ x.started?.toList := by
  rw [begun, List.filterMap_append]
  cases hx : x.started? <;> simp [begun, hx]

theorem sounding_concat (h : History) (x : Happening) :
    sounding (h ++ [x]) = (h.sounding.filter fun s => !x.ends s) ++ x.started?.toList := by
  induction h with
  | nil => simp [sounding]
  | cons y h ih =>
      rw [List.cons_append, sounding, sounding, ih, List.filter_append, List.filter_filter,
        List.append_assoc]
      congr 1
      apply List.filter_congr
      intro s _
      simp [Bool.and_comm]

theorem sounding_sublist_begun (h : History) : h.sounding.Sublist h.begun := by
  induction h using List.reverseRecOn with
  | nil => exact List.Sublist.refl _
  | append_singleton h x ih =>
      rw [sounding_concat, begun_concat]
      exact (List.filter_sublist.trans ih).append (List.Sublist.refl _)

/-- Only its own drop ends voices of a pool. -/
theorem filter_owner_ends (l : List Part) (x : Happening) (k : Nat) :
    (l.filter fun s => !x.ends s).filter (·.owner = some k)
      = if x.drops k then [] else l.filter (·.owner = some k) := by
  rw [List.filter_filter]
  cases x with
  | started t => simp [Happening.ends, Happening.drops]
  | dropped j =>
      by_cases hj : j = k
      · subst hj
        simp only [Happening.ends, Happening.drops, decide_true, if_true, List.filter_eq_nil_iff]
        simp
      · simp only [Happening.ends, Happening.drops, hj, decide_false, Bool.false_eq_true, if_false]
        apply List.filter_congr
        intro s _
        by_cases hs : s.owner = some k <;> simp [hs, Ne.symm hj]
  | stopped id =>
      simp only [Happening.ends, Happening.drops, Bool.false_eq_true, if_false]
      apply List.filter_congr
      intro s _
      by_cases hs : s.owner = some k <;> simp [hs]

/-- **The voices of a pool** that sound are those that it started since it dropped all voices
last. -/
theorem filter_owner_sounding (h : History) (k : Nat) :
    h.sounding.filter (·.owner = some k) = h.ofPool k := by
  induction h using List.reverseRecOn with
  | nil => rfl
  | append_singleton h x ih =>
      rw [sounding_concat, List.filter_append, filter_owner_ends, ih, ofPool, ofPool, sinceDrop,
        sinceDrop, List.rtakeWhile_concat]
      cases hx : x.drops k with
      | true =>
          have hnone : x.started? = none := by
            cases x with
            | dropped j => rfl
            | _ => cases hx
          simp [hnone, begun]
      | false => simp [begun_concat]

end History

/-- What an act makes happen. -/
def happenings (e : Ensemble) : Act → History
  | .play k frequency volume =>
    match e.pools[k]? with
    | none => []
    | some p =>
      match (p.play e.synth frequency volume).2.2.1 with
      | .ok _ => [.started ⟨some k, e.mixer.next frequency (p.gain volume)⟩]
      | .error _ => []
  | .dropAll k => if k < e.pools.length then [.dropped k] else []
  | .start frequency gain => [.started ⟨none, e.mixer.next frequency gain⟩]
  | .stop j => e.soloists[j]?.toList.map .stopped
  | .join _ => []
  | .render _ => []

/-- What acts make happen, in order. -/
def history (e : Ensemble) : List Act → History
  | [] => []
  | a :: acts => e.happenings a ++ (e.act a).history acts

/-! ### The mixer and the pools follow the history -/

/-- The mixer and the pools are as the history says. -/
structure Kept (e : Ensemble) (h : History) : Prop where
  /-- Voices are numbered in the order in which they were started. -/
  ids : h.begun.map (·.voice.id) = List.range e.mixer.started
  soloists : e.soloists = (h.begun.filter (·.owner = none)).map (·.voice.id)
  mixer : e.mixer.voices.map Voice.tone = h.sounding.map (·.voice)
  pools : ∀ k p, e.pools[k]? = some p →
    p.voices = (h.sounding.filter (·.owner = some k)).map (·.voice.id)
  owners : ∀ s ∈ h.begun, ∀ k, s.owner = some k → k < e.pools.length

variable {e e' : Ensemble} {h : History}

theorem Kept.nodup (hkept : Kept e h) : (h.begun.map (·.voice.id)).Nodup := by
  rw [hkept.ids]
  exact List.nodup_range

theorem Kept.ids_mixer (hkept : Kept e h) :
    e.mixer.voices.map (·.id) = h.sounding.map (·.voice.id) := by
  have hids := congrArg (List.map (·.id)) hkept.mixer
  rwa [List.map_map, List.map_map] at hids

/-- A voice that was started is told apart by its identity. -/
theorem Kept.eq_of_id (hkept : Kept e h) {s t : Part} (hs : s ∈ h.begun) (ht : t ∈ h.begun)
    (hid : s.voice.id = t.voice.id) : s = t :=
  List.inj_on_of_nodup_map hkept.nodup hs ht hid

theorem kept_new (rate : Int) (refusal : Nat → Option Fault) : Kept (new rate refusal) [] :=
  ⟨rfl, rfl, rfl, by simp [new], by simp [History.begun]⟩

/-- **A voice is started**, by a pool or without one. -/
theorem Kept.started (hkept : Kept e h) {owner : Option Nat} {frequency gain : Float}
    (mixer : e'.mixer = (e.mixer.start frequency gain).1)
    (soloists : e'.soloists = e.soloists ++ if owner = none then [e.mixer.started] else [])
    (pools : ∀ k p', e'.pools[k]? = some p' → ∃ p, e.pools[k]? = some p ∧
      p'.voices = p.voices ++ if owner = some k then [e.mixer.started] else [])
    (length : e'.pools.length = e.pools.length) (known : ∀ k, owner = some k → k < e.pools.length) :
    Kept e' (h ++ [.started ⟨owner, e.mixer.next frequency gain⟩]) := by
  rw [Mixer.start_eq] at mixer
  refine ⟨?_, ?_, ?_, ?_, ?_⟩
  · rw [History.begun_concat, List.map_append, hkept.ids, mixer, List.range_succ]
    rfl
  · rw [soloists, hkept.soloists, History.begun_concat, List.filter_append, List.map_append]
    congr 1
    cases owner <;> rfl
  · rw [History.sounding_concat, mixer]
    simp only [Happening.ends, Happening.started?, Bool.not_false, List.filter_true, List.map_append,
      hkept.mixer]
    rfl
  · intro k p' hp'
    obtain ⟨p, hp, hvoices⟩ := pools k p' hp'
    rw [hvoices, hkept.pools k p hp, History.sounding_concat, List.filter_append,
      History.filter_owner_ends, List.map_append]
    congr 1
    by_cases howner : owner = some k <;> simp [howner, Happening.started?, Mixer.next]
  · rw [History.begun_concat, length]
    intro s hs k hk
    rcases List.mem_append.mp hs with hs | hs
    · exact hkept.owners s hs k hk
    · obtain rfl : s = ⟨owner, e.mixer.next frequency gain⟩ := by simpa [Happening.started?] using hs
      exact known k hk

/-- **Voices are ended**, those with the given identities. -/
theorem Kept.ended (hkept : Kept e h) {x : Happening} (ids : List Nat) (hstarted : x.started? = none)
    (hends : ∀ s ∈ h.sounding, x.ends s = true ↔ s.voice.id ∈ ids)
    (mixer : e'.mixer = { e.mixer with voices := e.mixer.voices.filter (·.id ∉ ids) })
    (soloists : e'.soloists = e.soloists)
    (pools : ∀ k p', e'.pools[k]? = some p' → ∃ p, e.pools[k]? = some p ∧
      p'.voices = if x.drops k then [] else p.voices)
    (length : e'.pools.length = e.pools.length) : Kept e' (h ++ [x]) := by
  have hbegun : History.begun (h ++ [x]) = h.begun := by simp [History.begun_concat, hstarted]
  have hsounding : History.sounding (h ++ [x]) = h.sounding.filter (·.voice.id ∉ ids) := by
    rw [History.sounding_concat, hstarted, Option.toList_none, List.append_nil]
    apply List.filter_congr
    intro s hs
    rw [Bool.eq_iff_iff, decide_eq_true_eq, Bool.not_eq_true', ← Bool.not_eq_true, hends s hs]
  refine ⟨?_, ?_, ?_, ?_, ?_⟩
  · rw [hbegun, hkept.ids, mixer]
  · rw [hbegun, soloists, hkept.soloists]
  · -- A voice and its tone have the same identity, so it does not matter which of them is kept.
    have hkeep : ∀ vs : List Voice,
        (vs.filter (·.id ∉ ids)).map Voice.tone = (vs.map Voice.tone).filter (·.id ∉ ids) := by
      intro vs
      rw [List.filter_map]
      rfl
    rw [mixer, hkeep, hkept.mixer, List.filter_map, hsounding]
    rfl
  · intro k p' hp'
    obtain ⟨p, hp, hvoices⟩ := pools k p' hp'
    rw [hvoices, hkept.pools k p hp, History.sounding_concat, hstarted, Option.toList_none,
      List.append_nil, History.filter_owner_ends]
    split_ifs <;> rfl
  · rw [hbegun, length]
    exact hkept.owners

/-- Nothing happens to the voices, though more pools may be there and phases may have moved on. -/
theorem Kept.still (hkept : Kept e h)
    (tones : e'.mixer.voices.map Voice.tone = e.mixer.voices.map Voice.tone)
    (started : e'.mixer.started = e.mixer.started) (soloists : e'.soloists = e.soloists)
    (pools : ∀ k p', e'.pools[k]? = some p' → (∃ p, e.pools[k]? = some p ∧ p'.voices = p.voices) ∨
      e.pools.length ≤ k ∧ p'.voices = [])
    (length : e.pools.length ≤ e'.pools.length) : Kept e' h := by
  refine ⟨?_, ?_, ?_, ?_, ?_⟩
  · rw [started, hkept.ids]
  · rw [soloists, hkept.soloists]
  · rw [tones, hkept.mixer]
  · intro k p' hp'
    obtain ⟨p, hp, hvoices⟩ | ⟨hk, hvoices⟩ := pools k p' hp'
    · rw [hvoices, hkept.pools k p hp]
    · -- No voice was started by a pool that was not there.
      rw [hvoices, eq_comm, List.map_eq_nil_iff, List.filter_eq_nil_iff]
      intro s hs howner
      have hlt := hkept.owners s (h.sounding_sublist_begun.subset hs) k (of_decide_eq_true howner)
      omega
  · intro s hs k hk
    exact lt_of_lt_of_le (hkept.owners s hs k hk) length

theorem getElem?_set_cases {l : List Pool} {k j : Nat} {p q : Pool}
    (hq : (l.set k p)[j]? = some q) : j = k ∧ q = p ∨ j ≠ k ∧ l[j]? = some q := by
  rw [List.getElem?_set] at hq
  split_ifs at hq with hj
  · exact .inl ⟨hj.symm, (Option.some.inj hq).symm⟩
  · exact .inr ⟨Ne.symm hj, hq⟩

theorem Kept.play (hkept : Kept e h) (k : Nat) (frequency volume : Float) :
    Kept (e.act (.play k frequency volume)) (h ++ e.happenings (.play k frequency volume)) := by
  cases hp : e.pools[k]? with
  | none =>
      simp only [Ensemble.act, happenings, hp, List.append_nil]
      exact hkept
  | some p =>
      have hk : k < e.pools.length := (List.getElem?_eq_some_iff.mp hp).1
      obtain ⟨requests, f, hplay⟩ | ⟨requests, log, hplay⟩ := p.play_cases e.synth frequency volume
      · simp only [Ensemble.act, happenings, hp, hplay, List.append_nil]
        refine hkept.still rfl rfl rfl (fun j q hq => ?_) (by simp)
        obtain ⟨rfl, rfl⟩ | ⟨-, hq⟩ := getElem?_set_cases hq
        · exact .inl ⟨_, hp, rfl⟩
        · exact .inl ⟨q, hq, rfl⟩
      · simp only [Ensemble.act, happenings, hp, hplay]
        refine hkept.started rfl (by simp) (fun j q hq => ?_) (by simp) (by simpa using hk)
        obtain ⟨rfl, rfl⟩ | ⟨hj, hq⟩ := getElem?_set_cases hq
        · exact ⟨p, hp, by simp [Ensemble.mixer]⟩
        · exact ⟨q, hq, by simp [Ne.symm hj]⟩

theorem Kept.dropAll (hkept : Kept e h) (k : Nat) :
    Kept (e.act (.dropAll k)) (h ++ e.happenings (.dropAll k)) := by
  cases hp : e.pools[k]? with
  | none =>
      have hk : ¬ k < e.pools.length := by simpa using hp
      simp only [Ensemble.act, happenings, hp, hk, if_false, List.append_nil]
      exact hkept
  | some p =>
      have hk : k < e.pools.length := (List.getElem?_eq_some_iff.mp hp).1
      simp only [Ensemble.act, happenings, hp, hk, if_true]
      refine hkept.ended p.voices rfl (fun s hs => ?_) (Mixer.foldl_stop p.voices e.mixer) rfl
        (fun j q hq => ?_) (by simp [Pool.dropAll])
      · rw [hkept.pools k p hp]
        simp only [Happening.ends, decide_eq_true_eq, List.mem_map, List.mem_filter]
        constructor
        · intro howner
          exact ⟨s, ⟨hs, howner⟩, rfl⟩
        · rintro ⟨t, ⟨ht, howner⟩, hid⟩
          have hbegun := h.sounding_sublist_begun.subset
          rwa [← hkept.eq_of_id (hbegun ht) (hbegun hs) hid]
      · obtain ⟨rfl, rfl⟩ | ⟨hj, hq⟩ := getElem?_set_cases hq
        · exact ⟨p, hp, by simp [Pool.dropAll, Happening.drops]⟩
        · exact ⟨q, hq, by simp [Happening.drops, Ne.symm hj]⟩

theorem Kept.stop (hkept : Kept e h) (j : Nat) :
    Kept (e.act (.stop j)) (h ++ e.happenings (.stop j)) := by
  cases hj : e.soloists[j]? with
  | none =>
      simp only [Ensemble.act, happenings, hj, Option.toList_none, List.map_nil, List.append_nil]
      exact hkept
  | some id =>
      simp only [Ensemble.act, happenings, hj, Option.toList_some, List.map_cons, List.map_nil]
      refine hkept.ended [id] rfl (fun s hs => ?_) ?_ rfl
        (fun k p hp => ⟨p, hp, by simp [Happening.drops]⟩) rfl
      · -- A voice that was started without a pool has its identity for itself.
        obtain ⟨t, ht, rfl⟩ : ∃ t ∈ h.begun.filter (·.owner = none), t.voice.id = id := by
          rw [← List.mem_map, ← hkept.soloists]
          exact List.mem_of_getElem? hj
        obtain ⟨ht, howner⟩ := List.mem_filter.mp ht
        simp only [Happening.ends, Bool.and_eq_true, decide_eq_true_eq, List.mem_singleton,
          and_iff_right_iff_imp]
        intro hid
        rw [hkept.eq_of_id (h.sounding_sublist_begun.subset hs) ht hid]
        exact of_decide_eq_true howner
      · exact Mixer.foldl_stop [id] e.mixer

/-- **One act** keeps the mixer and the pools as the history says. -/
theorem Kept.act (hkept : Kept e h) (a : Act) : Kept (e.act a) (h ++ e.happenings a) := by
  cases a with
  | join config =>
      rw [happenings, List.append_nil]
      refine hkept.still rfl rfl rfl (fun k p hp => ?_) (by simp [Ensemble.act])
      simp only [Ensemble.act, List.getElem?_append, List.getElem?_singleton] at hp
      split_ifs at hp with hk
      · exact .inl ⟨p, hp, rfl⟩
      · cases hp
        refine .inr ⟨by omega, ?_⟩
        unfold Pool.new
        split_ifs <;> rfl
  | play k frequency volume => exact hkept.play k frequency volume
  | dropAll k => exact hkept.dropAll k
  | start frequency gain =>
      exact hkept.started rfl rfl (fun k p hp => ⟨p, hp, by simp⟩) rfl (by simp)
  | stop j => exact hkept.stop j
  | render n =>
      rw [happenings, List.append_nil]
      exact hkept.still (e.mixer.tones_render n) rfl rfl (fun k p hp => .inl ⟨p, hp, rfl⟩) le_rfl

/-- **A whole run** keeps the mixer and the pools as the history says. -/
theorem Kept.after (hkept : Kept e h) (acts : List Act) :
    Kept (e.after acts) (h ++ e.history acts) := by
  induction acts generalizing e h with
  | nil => simpa [history, Ensemble.after] using hkept
  | cons a acts ih =>
      rw [history, ← List.append_assoc]
      exact ih (hkept.act a)

/-- **Voices of a shared mixer.**  After any acts, the mixer has the voices that were started and not
ended, each once and in the order in which they were started, with the steps and gains they were
started with.  Every pool has the voices that it started since it dropped all voices last; all of them
sound, and no two pools have a voice in common.

A pool that drops all voices takes just its own out of the mixer: the others keep their order, their
steps, gains and phases, and the other pools keep their lists.  Stopping takes out one voice at most.
When no voice is left, zeros are rendered. -/
theorem voices_follow_history (rate : Int) (refusal : Nat → Option Fault) (acts : List Act) :
    let e := (new rate refusal).after acts
    let h := (new rate refusal).history acts
    (e.mixer.voices.map Voice.tone = h.sounding.map (·.voice) ∧
      (h.begun.map (·.voice.id)).Nodup ∧ (e.mixer.voices.map (·.id)).Nodup) ∧
    (∀ k p, e.pools[k]? = some p → p.voices = (h.ofPool k).map (·.voice.id) ∧
      p.voices ⊆ e.mixer.voices.map (·.id)) ∧
    (∀ (j k : Nat) (p q : Pool), j ≠ k → e.pools[j]? = some p → e.pools[k]? = some q →
      p.voices.Disjoint q.voices) ∧
    (∀ k p, e.pools[k]? = some p →
      (e.act (.dropAll k)).mixer.voices = e.mixer.voices.filter (·.id ∉ p.voices) ∧
      (e.act (.dropAll k)).pools = e.pools.set k { p with voices := [] }) ∧
    (∀ id, (e.mixer.stop id).voices = e.mixer.voices.eraseP (·.id = id)) ∧
    (e.mixer.voices = [] →
      ∀ n, (e.mixer.render n).2 = Array.replicate n (0.0 : Float).toFloat32) := by
  intro e h
  have hkept : Kept e h := (kept_new rate refusal).after acts
  have hsublist := h.sounding_sublist_begun
  have hnodup : (e.mixer.voices.map (·.id)).Nodup := by
    rw [hkept.ids_mixer]
    exact hkept.nodup.sublist (hsublist.map _)
  refine ⟨⟨hkept.mixer, hkept.nodup, hnodup⟩, ?_, ?_, ?_, ?_, ?_⟩
  · intro k p hp
    rw [hkept.pools k p hp, hkept.ids_mixer, History.filter_owner_sounding]
    refine ⟨rfl, ?_⟩
    rw [← History.filter_owner_sounding]
    exact List.map_subset _ (List.filter_subset_self _)
  · intro j k p q hjk hp hq id hid hid'
    rw [hkept.pools j p hp, List.mem_map] at hid
    rw [hkept.pools k q hq, List.mem_map] at hid'
    obtain ⟨s, hs, rfl⟩ := hid
    obtain ⟨t, ht, hsame⟩ := hid'
    obtain ⟨hs, hsj⟩ := List.mem_filter.mp hs
    obtain ⟨ht, htk⟩ := List.mem_filter.mp ht
    obtain rfl := hkept.eq_of_id (hsublist.subset ht) (hsublist.subset hs) hsame
    have howner := (of_decide_eq_true hsj).symm.trans (of_decide_eq_true htk)
    exact hjk (Option.some.inj howner)
  · intro k p hp
    simp only [Ensemble.act, hp]
    exact ⟨Mixer.voices_foldl_stop p.voices e.mixer, rfl⟩
  · exact Mixer.voices_stop_eq_eraseP hnodup
  · exact Mixer.render_of_silent

/-- Two pools and a voice of its own: each pool has its voice, and when one of them drops all voices
the mixer keeps the other two. -/
theorem two_pools_and_a_soloist :
    let acts : List Act := [.join {}, .join {}, .play 0 440 0.5, .start 220 1, .play 1 330 0.5]
    let e := (new 8000 fun _ => none).after acts
    e.pools.map (·.voices) = [[0], [2]] ∧ e.mixer.voices.map (·.id) = [0, 1, 2] ∧
      (e.act (.dropAll 0)).mixer.voices.map (·.id) = [1, 2] := by
  intro acts e
  have hpools : e.pools.map (·.voices) = [[0], [2]] := by decide +kernel
  have hids : e.mixer.voices.map (·.id) = [0, 1, 2] := by decide +kernel
  refine ⟨hpools, hids, ?_⟩
  obtain ⟨p, hp, hvoices⟩ : ∃ p, e.pools[0]? = some p ∧ p.voices = [0] := by
    have hfirst := congrArg (·[0]?) hpools
    simpa using hfirst
  obtain ⟨-, -, -, hdrop, -⟩ := voices_follow_history 8000 (fun _ => none) acts
  rw [(hdrop 0 p hp).1, hvoices]
  have hkeep : (e.mixer.voices.filter (·.id ∉ [0])).map (·.id)
      = (e.mixer.voices.map (·.id)).filter (· ∉ [0]) := by
    rw [List.filter_map]
    rfl
  rw [hkeep, hids]
  decide

end Ensemble
end GuestHost
