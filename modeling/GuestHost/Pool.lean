import GuestHost.Journal
import GuestHost.Mixer

/-! # The voices of one guest

A guest starts tones one by one and can only stop all of them together.  Its pool remembers which
voices are its own.

* `Synth` starts tones on a mixer and may refuse.
* `Pool.play` starts a tone, its volume kept within bounds, and warns when the pool keeps growing.
* `Pool.dropAll` stops every voice of the pool. -/

namespace GuestHost

/-- A mixer that may refuse to start tones. -/
structure Synth where
  mixer : Mixer := Mixer.new 0
  requests : Nat := 0
  /-- Why the first request is refused, the second, and so on. -/
  refusal : Nat → Option Fault := fun _ => none

namespace Synth

/-- Starts a tone and tells the identity of its voice. -/
def start (s : Synth) (frequency gain : Float) : Synth × Except Fault Nat :=
  let next := { s with requests := s.requests + 1 }
  match s.refusal s.requests with
  | some f => (next, .error f)
  | none =>
    let (mixer, id) := s.mixer.start frequency gain
    ({ next with mixer }, .ok id)

end Synth

/-- Bounds for a pool. -/
structure PoolConfig where
  maxGain : Float := 1.0
  /-- The number of voices after which a warning is due, again and again; none when not
  positive. -/
  warnVoices : Int := 64

/-- The voices of one guest. -/
structure Pool where
  config : PoolConfig := {}
  voices : List Nat := []

namespace Pool

def component : String := "audio-pool"

/-- An empty pool; a bound on the gain that is not positive means the standard one. -/
def new (c : PoolConfig) : Pool :=
  { config := if c.maxGain ≤ 0.0 then { c with maxGain := 1.0 } else c }

def size (p : Pool) : Nat := p.voices.length

/-- The gain of a volume: not below zero and not above the bound. -/
def gain (p : Pool) (volume : Float) : Float :=
  if volume.isNaN || volume < 0.0 then 0.0
  else if volume > p.config.maxGain then p.config.maxGain
  else volume

/-- Frequencies that can sound. -/
def isAudible (frequency : Float) : Bool :=
  !frequency.isNaN && !frequency.isInf && !(frequency ≤ 0.0)

/-- Whether a warning is due at a number of voices. -/
def warns (p : Pool) (n : Nat) : Bool :=
  0 < p.config.warnVoices && (n : Int) % p.config.warnVoices = 0

def play (p : Pool) (s : Synth) (frequency volume : Float) :
    Pool × Synth × Except Fault Unit × Journal :=
  if isAudible frequency then
    match s.start frequency (p.gain volume) with
    | (s, .error f) => (p, s, .error (.voice frequency f), [])
    | (s, .ok id) =>
      let q := { p with voices := p.voices ++ [id] }
      (q, s, .ok (), if q.warns q.size then
        [.warn component "Voice pool keeps growing without drop_all" [("voices", .whole q.size)]]
        else [])
  else (p, s, .error (.frequency frequency), [])

/-- Stops every voice of the pool, and tells how many there were. -/
def dropAll (p : Pool) (s : Synth) : Pool × Synth × Nat × Journal :=
  ({ p with voices := [] }, { s with mixer := p.voices.foldl Mixer.stop s.mixer }, p.size,
    if p.size = 0 then [] else [.debug component "Dropped all voices" [("voices", .whole p.size)]])

end Pool
end GuestHost
