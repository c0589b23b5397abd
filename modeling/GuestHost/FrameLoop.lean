import GuestHost.Fault

/-! # The frame loop

A guest is driven frame by frame.  Every frame applies the events that wait, calls the guest, and
renders the sound of the frame.  The loop stops at the first call that fails, at the first sound
that cannot be rendered, or when the run is interrupted; otherwise it goes on for as many frames
as it is given.

* `Pace` is what is settled before the first frame: how many samples a frame has, and how long it
  takes.  With a frame rate that is not positive there is no pace, and the host breaks down.
* `FrameLoop` tells what to do in each frame, so that the loop can be reasoned about apart from
  guests and sound. -/

namespace GuestHost

/-- How frames are paced. -/
structure Pace where
  samples : Int
  tick : Duration
deriving DecidableEq, Repr

namespace Pace

/-- A second in nanoseconds. -/
def second : Int := 1000000000

/-- The pace of frames at a sample rate.  Room is made for the samples of a frame before the ticks
are set up. -/
def of (rate fps : Int) : Except Fault Pace :=
  if fps = 0 then .error (.broken .division)
  else
    let samples := rate.tdiv fps
    let tick := second.tdiv fps
    if samples < 0 then .error (.broken .room)
    else if tick ≤ 0 then .error (.broken .ticking)
    else .ok ⟨samples, ⟨tick⟩⟩

end Pace

/-- What is done in a frame, on states of any kind. -/
structure FrameLoop (σ : Type) where
  /-- Applies the events that wait. -/
  dispatch : Nat → σ → σ
  call : Nat → σ → σ × Option Fault
  /-- Renders the sound of the frame. -/
  render : σ → σ × Option Fault
  interrupted : σ → Bool

/-- Why a frame loop stopped before its last frame. -/
inductive Stop
  | failed (frame : Nat) (why : Fault)
  | unrendered (why : Fault)
  | interrupted

namespace FrameLoop

variable {σ : Type}

def frame (l : FrameLoop σ) (n : Nat) (s : σ) : σ × Option Stop :=
  match l.call n (l.dispatch n s) with
  | (s, some why) => (s, some (if l.interrupted s then .interrupted else .failed n why))
  | (s, none) =>
    match l.render s with
    | (s, some why) => (s, some (.unrendered why))
    | (s, none) => (s, if l.interrupted s then some .interrupted else none)

/-- A number of frames, counted on from `n`. -/
def run (l : FrameLoop σ) : Nat → Nat → σ → σ × Option Stop
  | 0, _, s => (s, none)
  | frames + 1, n, s =>
    match l.frame n s with
    | (s, some stop) => (s, some stop)
    | (s, none) => run l frames (n + 1) s

end FrameLoop
end GuestHost
