import GuestHost.Decimal.Binary

/-! # Tones and their mixture

A voice is a sine tone.  For every sample a voice adds its sine to the sum and moves on by its step;
past a whole turn it is set back by one turn.

* `Voice.wrapped` is that movement, over any kind of number.
* `Mixer` holds the voices that sound, in the order in which they were started.
* `Mixer.render` gives the next samples, zeros when nothing sounds. -/

namespace GuestHost

/-- A sounding tone. -/
structure Voice where
  /-- Tells the voice apart from all others of the mixer. -/
  id : Nat
  step : Float
  gain : Float
  phase : Float := 0
deriving Inhabited

namespace Voice

/-- The phase after a step, set back by one turn when it is past it. -/
def wrapped {α : Type} [Add α] [Sub α] [LE α] [DecidableRel (fun a b : α => a ≤ b)]
    (turn phase step : α) : α :=
  let p := phase + step
  if turn ≤ p then p - turn else p

/-- A whole turn. -/
def turn : Float := 6.283185307179586

/-- The step of a frequency at a sample rate. -/
def stepOf (frequency rate : Float) : Float := turn * frequency / rate

/-- The voice one sample later. -/
def advance (v : Voice) : Voice := { v with phase := wrapped turn v.phase v.step }

/-- What the voice adds to a sample. -/
def level (v : Voice) : Float := Float.sin v.phase * v.gain

end Voice

/-- The voices that sound together. -/
structure Mixer where
  rate : Float
  voices : List Voice := []
  /-- How many voices were ever started. -/
  started : Nat := 0
deriving Inhabited

namespace Mixer

/-- The sample rate used when none is chosen. -/
def standardRate : Int := 44100

/-- A silent mixer; a rate that is not positive means the standard one. -/
def new (rate : Int) : Mixer := { rate := Float.ofInt (if rate ≤ 0 then standardRate else rate) }

def sampleRate (m : Mixer) : Int := Binary.truncate m.rate

/-- Starts a voice and tells its identity. -/
def start (m : Mixer) (frequency gain : Float) : Mixer × Nat :=
  let v : Voice := { id := m.started, step := Voice.stepOf frequency m.rate, gain }
  ({ m with voices := m.voices ++ [v], started := m.started + 1 }, m.started)

/-- Stops a voice; stopping it again changes nothing. -/
def stop (m : Mixer) (id : Nat) : Mixer := { m with voices := m.voices.filter (·.id ≠ id) }

def active (m : Mixer) : Nat := m.voices.length

/-- The sum of the voices. -/
def sample (vs : List Voice) : Float32 := (vs.foldl (fun s (v : Voice) => s + v.level) 0.0).toFloat32

/-- Renders samples after those already rendered. -/
def renderOnto : Nat → List Voice → Array Float32 → Array Float32 × List Voice
  | 0, vs, acc => (acc, vs)
  | n + 1, vs, acc => renderOnto n (vs.map Voice.advance) (acc.push (sample vs))

def render (m : Mixer) (n : Nat) : Mixer × Array Float32 :=
  let (samples, voices) := renderOnto n m.voices #[]
  ({ m with voices }, samples)

end Mixer
end GuestHost
