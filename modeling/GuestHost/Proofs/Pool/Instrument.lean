import GuestHost.Pool

/-! # Pools on any instrument

A pool asks two things of what plays its tones, that a tone is started and that a voice is stopped, and
it looks into neither.  So what a pool does can be told for all instruments at once.

* `Instrument` is whatever starts and stops tones, and `Chorus` is a pool of an instrument's voices.
* **A synth** is an instrument, and a pool that plays through it is a chorus (`Pool.play_eq`,
  `Pool.dropAll_eq`).
* **Books.**  An instrument can note down which voices it started and which it stopped
  (`Instrument.noting`), and it plays as it does without (`Chorus.unnoted_play`,
  `Chorus.unnoted_dropAll`). -/

namespace GuestHost

/-- Whatever starts and stops tones.  The state of the instrument is of the type `σ`, and a voice is
whatever it hands out for a tone. -/
structure Instrument (σ ν : Type) where
  start (state : σ) (frequency gain : Float) : σ × Except Fault ν
  stop (state : σ) (voice : ν) : σ

/-- A pool of voices of any kind. -/
structure Chorus (ν : Type) where
  config : PoolConfig
  voices : List ν := []

variable {σ ν : Type}

namespace Chorus

/-- A pool without voices that has the same bounds. -/
def bounds (c : Chorus ν) : Pool := { config := c.config }

/-- A chorus without voices, with the bounds of a new pool. -/
def new (config : PoolConfig) : Chorus ν := { config := (Pool.new config).config }

/-- The number of voices. -/
def size (c : Chorus ν) : Nat := c.voices.length

/-- The warning that a pool has grown to a number of voices. -/
def growth (n : Nat) : Record :=
  .warn Pool.component "Voice pool keeps growing without drop_all" [("voices", .whole n)]

/-- What is told when a chorus has grown. -/
def growthLog (c : Chorus ν) : Journal := if c.bounds.warns c.size then [growth c.size] else []

/-- What is told when a chorus drops its voices. -/
def dropLog (c : Chorus ν) : Journal :=
  if c.size = 0 then [] else [.debug Pool.component "Dropped all voices" [("voices", .whole c.size)]]

variable (I : Instrument σ ν) (c : Chorus ν) (s : σ)

/-- Starts a tone. -/
def play (frequency volume : Float) : Chorus ν × σ × Except Fault Unit × Journal :=
  if Pool.isAudible frequency then
    match I.start s frequency (c.bounds.gain volume) with
    | (s, .error f) => (c, s, .error (.voice frequency f), [])
    | (s, .ok v) =>
      let d := { c with voices := c.voices ++ [v] }
      (d, s, .ok (), d.growthLog)
  else (c, s, .error (.frequency frequency), [])

/-- Stops every voice, and tells how many there were. -/
def dropAll : Chorus ν × σ × Nat × Journal :=
  ({ c with voices := [] }, c.voices.foldl I.stop s, c.size, c.dropLog)

/-! ### What a play comes to -/

variable {c s} {t : σ} {frequency volume : Float}

theorem play_inaudible (h : ¬ Pool.isAudible frequency) :
    c.play I s frequency volume = (c, s, .error (.frequency frequency), []) :=
  if_neg h

variable {I}

theorem play_refused {f : Fault} (haudible : Pool.isAudible frequency)
    (h : I.start s frequency (c.bounds.gain volume) = (t, .error f)) :
    c.play I s frequency volume = (c, t, .error (.voice frequency f), []) := by
  rw [play, if_pos haudible, h]

theorem play_started {v : ν} (haudible : Pool.isAudible frequency)
    (h : I.start s frequency (c.bounds.gain volume) = (t, .ok v)) :
    c.play I s frequency volume = ({ c with voices := c.voices ++ [v] }, t, .ok (),
      growthLog { c with voices := c.voices ++ [v] }) := by
  rw [play, if_pos haudible, h]

end Chorus

/-! ### Pools on a synth -/

/-- A synth, with the numbers of its voices. -/
def Synth.instrument : Instrument Synth Nat where
  start := Synth.start
  stop s id := { s with mixer := s.mixer.stop id }

/-- A pool as a chorus of numbered voices. -/
def Pool.chorus (p : Pool) : Chorus Nat := ⟨p.config, p.voices⟩

/-- A chorus of numbered voices as a pool. -/
def Chorus.pool (c : Chorus Nat) : Pool := ⟨c.config, c.voices⟩

theorem Synth.foldl_stop (ids : List Nat) (s : Synth) :
    ids.foldl Synth.instrument.stop s = { s with mixer := ids.foldl Mixer.stop s.mixer } := by
  induction ids generalizing s with
  | nil => rfl
  | cons id ids ih =>
      rw [List.foldl_cons, ih]
      rfl

/-- A pool plays as a chorus of its synth does. -/
theorem Pool.play_eq (p : Pool) (s : Synth) (frequency volume : Float) :
    p.play s frequency volume =
      ((p.chorus.play Synth.instrument s frequency volume).1.pool,
        (p.chorus.play Synth.instrument s frequency volume).2) := by
  by_cases haudible : isAudible frequency
  · rcases h : s.start frequency (p.gain volume) with ⟨t, f | id⟩
    · rw [Chorus.play_refused (c := p.chorus) (I := Synth.instrument) haudible h, play,
        if_pos haudible, h]
      rfl
    · rw [Chorus.play_started (c := p.chorus) (I := Synth.instrument) haudible h, play,
        if_pos haudible, h]
      rfl
  · rw [Chorus.play_inaudible _ haudible, play, if_neg haudible]
    rfl

/-- A pool drops its voices as a chorus of its synth does. -/
theorem Pool.dropAll_eq (p : Pool) (s : Synth) :
    p.dropAll s =
      ((p.chorus.dropAll Synth.instrument s).1.pool, (p.chorus.dropAll Synth.instrument s).2) := by
  rw [dropAll, Chorus.dropAll, Synth.foldl_stop]
  rfl

/-! ### Books -/

/-- An instrument's state, with the voices that it started and those that it stopped, both in the order
in which it did. -/
structure Books (σ ν : Type) where
  state : σ
  started : List ν := []
  stopped : List ν := []

/-- The instrument, keeping books. -/
def Instrument.noting (I : Instrument σ ν) : Instrument (Books σ ν) ν where
  start b frequency gain :=
    match I.start b.state frequency gain with
    | (s, .error f) => ({ b with state := s }, .error f)
    | (s, .ok v) => ({ b with state := s, started := b.started ++ [v] }, .ok v)
  stop b v := { b with state := I.stop b.state v, stopped := b.stopped ++ [v] }

namespace Instrument

variable {I : Instrument σ ν} {b : Books σ ν} {t : σ} {frequency gain : Float}

theorem noting_refused {f : Fault} (h : I.start b.state frequency gain = (t, .error f)) :
    I.noting.start b frequency gain = ({ b with state := t }, .error f) := by
  simp only [noting, h]

theorem noting_started {v : ν} (h : I.start b.state frequency gain = (t, .ok v)) :
    I.noting.start b frequency gain =
      ({ b with state := t, started := b.started ++ [v] }, .ok v) := by
  simp only [noting, h]

theorem foldl_stop_noting (I : Instrument σ ν) (vs : List ν) (b : Books σ ν) :
    vs.foldl I.noting.stop b = ⟨vs.foldl I.stop b.state, b.started, b.stopped ++ vs⟩ := by
  induction vs generalizing b with
  | nil => simp
  | cons v vs ih =>
      rw [List.foldl_cons, ih]
      simp [noting]

end Instrument

namespace Chorus

variable (I : Instrument σ ν) (c : Chorus ν) (b : Books σ ν)

theorem play_noting_cases (frequency volume : Float) :
    (∃ s v, c.play I.noting b frequency volume = ({ c with voices := c.voices ++ [v] },
      { b with state := s, started := b.started ++ [v] }, .ok (),
      growthLog { c with voices := c.voices ++ [v] })) ∨
    ∃ s f, c.play I.noting b frequency volume = (c, { b with state := s }, .error f, []) := by
  by_cases haudible : Pool.isAudible frequency
  · rcases h : I.start b.state frequency (c.bounds.gain volume) with ⟨s, f | v⟩
    · exact .inr ⟨s, _, play_refused haudible (Instrument.noting_refused h)⟩
    · exact .inl ⟨s, v, play_started haudible (Instrument.noting_started h)⟩
  · exact .inr ⟨b.state, _, play_inaudible _ haudible⟩

/-- Without its books, a chorus plays the same. -/
theorem unnoted_play (frequency volume : Float) :
    c.play I b.state frequency volume =
      ((c.play I.noting b frequency volume).1, (c.play I.noting b frequency volume).2.1.state,
        (c.play I.noting b frequency volume).2.2) := by
  by_cases haudible : Pool.isAudible frequency
  · rcases h : I.start b.state frequency (c.bounds.gain volume) with ⟨t, f | v⟩
    · rw [play_refused haudible h, play_refused haudible (Instrument.noting_refused h)]
    · rw [play_started haudible h, play_started haudible (Instrument.noting_started h)]
  · rw [play_inaudible _ haudible, play_inaudible _ haudible]

/-- All voices are noted down as stopped, in their order. -/
theorem dropAll_noting :
    c.dropAll I.noting b =
      ({ c with voices := [] }, ⟨c.voices.foldl I.stop b.state, b.started, b.stopped ++ c.voices⟩,
        c.size, c.dropLog) := by
  rw [dropAll, I.foldl_stop_noting]

/-- Without its books, a chorus drops its voices the same. -/
theorem unnoted_dropAll :
    c.dropAll I b.state =
      ((c.dropAll I.noting b).1, (c.dropAll I.noting b).2.1.state, (c.dropAll I.noting b).2.2) := by
  rw [dropAll_noting, dropAll]

end Chorus
end GuestHost
