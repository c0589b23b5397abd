import GuestHost.EventQueue
import Mathlib.Data.List.Nodup

/-! # Events run in the order in which they are posted

Many may post to a queue at any time, also while it is drained; only one drains it.

* **Postings** (`Posting`).  Errands are numbered as they are posted, so that two postings of the same
  errand can be told apart.  A `Ledger` lists what was posted and what ran, oldest first.
* **A turn** (`Ledger.turn`) is one errand of a drain.  While it runs its followers are posted, and
  others may post before each of them and after the last (`woven`).
* **A desk** (`Desk`) is a queue with its ledger.  Somebody posts an errand, or the queue is drained
  while others post (`Op`).  After any of this what ran and what waits is, in this order, all that was
  posted (`Desk.ordered_after`). -/

namespace GuestHost
namespace EventQueue

variable {ι : Type}

/-! ### Postings and turns -/

/-- An errand, with its number among all that were posted. -/
structure Posting (ι : Type) where
  number : Nat
  errand : Errand ι

/-- What was posted and what ran, oldest first. -/
structure Ledger (ι : Type) where
  posted : List (Posting ι) := []
  ran : List (Posting ι) := []

/-- Followers in their order, with what others post before each of them and after the last. -/
def woven {α : Type} : List (List α) → List α → List α
  | [], followers => followers
  | others, [] => others.flatten
  | gap :: others, f :: followers => gap ++ f :: woven others followers

namespace Ledger

/-- Errands with the numbers that they get when they are posted next. -/
def numbered (l : Ledger ι) (ts : List (Errand ι)) : List (Posting ι) :=
  (ts.zipIdx l.posted.length).map fun t => ⟨t.2, t.1⟩

theorem errand_numbered (l : Ledger ι) (ts : List (Errand ι)) :
    (l.numbered ts).map (·.errand) = ts := by
  rw [numbered, List.map_map]
  exact List.zipIdx_map_fst _ _

theorem number_numbered (l : Ledger ι) (ts : List (Errand ι)) :
    (l.numbered ts).map (·.number) = List.range' l.posted.length ts.length := by
  rw [numbered, List.map_map]
  exact List.zipIdx_map_snd _ _

/-- A posting runs.  `others` tells what others post meanwhile, by the number of the posting. -/
def turn (others : Nat → List (List (Errand ι))) (l : Ledger ι) (p : Posting ι) :
    Ledger ι × List (Posting ι) :=
  let posted := l.numbered (woven (others p.number) p.errand.followers)
  ({ posted := l.posted ++ posted, ran := l.ran ++ [p] }, posted)

/-- The numbers tell the order of posting. -/
def InOrder (l : Ledger ι) : Prop := l.posted.map (·.number) = List.range l.posted.length

/-- Errands are numbered on. -/
theorem InOrder.append {l : Ledger ι} (h : l.InOrder) (ts : List (Errand ι))
    (ran : List (Posting ι)) :
    InOrder { posted := l.posted ++ l.numbered ts, ran } := by
  have hlength : (l.numbered ts).length = ts.length := by
    rw [numbered, List.length_map, List.length_zipIdx]
  rw [InOrder, List.map_append, h, number_numbered, List.length_append, hlength,
    List.range_eq_range', List.range_eq_range', ← List.range'_append_1, Nat.zero_add]

variable (others : Nat → List (List (Errand ι))) (l : Ledger ι) (batch : List (Posting ι))

/-- **One drain** runs its batch in order. -/
theorem ran_runAll : (runAll (turn others) l batch).1.ran = l.ran ++ batch := by
  induction batch generalizing l with
  | nil => exact (List.append_nil _).symm
  | cons p batch ih =>
      simp only [runAll]
      rw [ih, turn, List.append_assoc, List.singleton_append]

/-- What is posted during a drain is what the drain leaves. -/
theorem posted_runAll :
    (runAll (turn others) l batch).1.posted
      = l.posted ++ (runAll (turn others) l batch).2 := by
  induction batch generalizing l with
  | nil => exact (List.append_nil _).symm
  | cons p batch ih =>
      simp only [runAll]
      rw [ih, turn, List.append_assoc]

/-- The errands posted during a drain: for each errand of the batch in turn, its followers with what
others post meanwhile. -/
theorem errands_runAll :
    (runAll (turn others) l batch).2.map (·.errand)
      = batch.flatMap fun p => woven (others p.number) p.errand.followers := by
  induction batch generalizing l with
  | nil => rfl
  | cons p batch ih =>
      simp only [runAll]
      rw [List.map_append, ih, turn, errand_numbered, List.flatMap_cons]

variable {l}

theorem InOrder.runAll (h : l.InOrder) : (runAll (turn others) l batch).1.InOrder := by
  induction batch generalizing l with
  | nil => exact h
  | cons p batch ih => exact ih (h.append _ _)

end Ledger

/-! ### Posting and draining in any order -/

/-- What is done with a queue. -/
inductive Op (ι : Type)
  /-- Somebody posts an errand. -/
  | post (t : Errand ι)
  /-- The queue is drained, and others post meanwhile. -/
  | drain (others : Nat → List (List (Errand ι)))

/-- A queue with its ledger. -/
structure Desk (ι : Type) where
  queue : EventQueue (Posting ι) := {}
  ledger : Ledger ι := {}

namespace Desk

/-- Carries out one operation. -/
def act (d : Desk ι) : Op ι → Desk ι
  | .post t =>
    let posted := d.ledger.numbered [t]
    { queue := posted.foldl EventQueue.post d.queue
      ledger := { d.ledger with posted := d.ledger.posted ++ posted } }
  | .drain others =>
    let (ledger, queue, _) := d.queue.drain (Ledger.turn others) d.ledger
    { queue, ledger }

/-- The desk after operations. -/
def after (d : Desk ι) (ops : List (Op ι)) : Desk ι := ops.foldl act d

/-- The numbers tell the order of posting; what ran and what waits is all that was posted. -/
structure Ordered (d : Desk ι) : Prop where
  numbers : d.ledger.InOrder
  accounted : d.ledger.ran ++ d.queue.waiting = d.ledger.posted

/-- **One operation** keeps the order. -/
theorem Ordered.act {d : Desk ι} (h : d.Ordered) (op : Op ι) : (d.act op).Ordered := by
  cases op with
  | post t =>
      refine ⟨h.numbers.append [t] d.ledger.ran, ?_⟩
      change d.ledger.ran ++ (d.queue.waiting ++ d.ledger.numbered [t]) = _
      rw [← List.append_assoc, h.accounted]
      rfl
  | drain others =>
      refine ⟨h.numbers.runAll others d.queue.waiting, ?_⟩
      change (runAll (Ledger.turn others) d.ledger d.queue.waiting).1.ran
        ++ (runAll (Ledger.turn others) d.ledger d.queue.waiting).2 = _
      rw [Ledger.ran_runAll, h.accounted]
      exact (Ledger.posted_runAll others d.ledger d.queue.waiting).symm

/-- **Any operations** keep the order. -/
theorem ordered_after (ops : List (Op ι)) : (after ({} : Desk ι) ops).Ordered := by
  have hnew : ({} : Desk ι).Ordered := ⟨rfl, rfl⟩
  exact List.foldlRecOn ops act hnew fun _ h op _ => h.act op

/-- What ran is numbered from the first posting on: nothing ran twice, nothing was passed over. -/
theorem Ordered.number_ran {d : Desk ι} (h : d.Ordered) :
    d.ledger.ran.map (·.number) = List.range d.ledger.ran.length := by
  have hran : d.ledger.ran = d.ledger.posted.take d.ledger.ran.length := by
    rw [← h.accounted, List.take_left]
  have hle : d.ledger.ran.length ≤ d.ledger.posted.length := by
    rw [← h.accounted, List.length_append]
    exact Nat.le_add_right _ _
  conv_lhs => rw [hran, List.map_take, h.numbers, List.take_range, Nat.min_eq_left hle]

end Desk
end EventQueue
end GuestHost
