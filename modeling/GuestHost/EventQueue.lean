/-! # Events that wait for their turn

Host events that finish while a guest is running wait in a queue until the host takes them out
between two guest calls.

* `EventQueue.post` adds an event at the end.
* `EventQueue.drain` takes out what is waiting when it starts and runs it in order.  Events posted
  meanwhile wait for the next drain. -/

namespace GuestHost

/-- Events in the order in which they were posted. -/
structure EventQueue (α : Type) where
  waiting : List α := []
deriving DecidableEq, Repr, Inhabited

namespace EventQueue

variable {α σ : Type}

def post (q : EventQueue α) (a : α) : EventQueue α := ⟨q.waiting ++ [a]⟩

def pending (q : EventQueue α) : Nat := q.waiting.length

/-- Runs events one after the other; each may change the state and post further events. -/
def runAll (run : σ → α → σ × List α) : σ → List α → σ × List α
  | s, [] => (s, [])
  | s, a :: as =>
    let (s, posted) := run s a
    let (s, later) := runAll run s as
    (s, posted ++ later)

/-- Runs the events waiting now, leaves those they post, and tells how many ran. -/
def drain (run : σ → α → σ × List α) (s : σ) (q : EventQueue α) : σ × EventQueue α × Nat :=
  let (s, posted) := runAll run s q.waiting
  (s, ⟨posted⟩, q.waiting.length)

@[simp] theorem waiting_post (q : EventQueue α) (a : α) :
    (q.post a).waiting = q.waiting ++ [a] := rfl

@[simp] theorem drain_count (run : σ → α → σ × List α) (s : σ) (q : EventQueue α) :
    (drain run s q).2.2 = q.pending := rfl

end EventQueue

/-- An event that notes its label when it runs and posts its followers. -/
inductive Errand (ι : Type)
  | node (label : ι) (followers : List (Errand ι))

instance {ι : Type} [Inhabited ι] : Inhabited (Errand ι) := ⟨.node default []⟩

namespace Errand

variable {ι : Type}

def label : Errand ι → ι
  | node l _ => l

def followers : Errand ι → List (Errand ι)
  | node _ fs => fs

/-- Running an errand adds its label to the notes. -/
def run (notes : List ι) (t : Errand ι) : List ι × List (Errand ι) := (notes ++ [t.label], t.followers)

end Errand
end GuestHost
