import GuestHost.Proofs.EventQueue.Order

/-! # Errands run level by level

Errands that nobody else disturbs run in breadth-first order.  The roots of a forest are posted, then
the queue is drained again and again (`EventQueue.rounds`): every drain runs one level of the forest
(`Errand.level`) and leaves the next one, and nothing waits any more when there were as many drains as
the forest is high (`Errand.height`). -/

namespace GuestHost

variable {ι : Type}

namespace Errand

/-! ### Forests -/

/-- The errands of a forest that have a number of errands above them, from left to right. -/
def level : Nat → List (Errand ι) → List (Errand ι)
  | 0, ts => ts
  | k + 1, ts => ts.flatMap fun t => level k t.followers

mutual

/-- The number of levels of an errand and all that comes of it. -/
def height : Errand ι → Nat
  | node _ followers => heights followers + 1

/-- The number of levels of a forest. -/
def heights : List (Errand ι) → Nat
  | [] => 0
  | t :: ts => max t.height (heights ts)

end

theorem height_eq (t : Errand ι) : t.height = heights t.followers + 1 := by
  cases t with
  | node label followers => rw [height, Errand.followers]

theorem heights_le_iff {ts : List (Errand ι)} {n : Nat} :
    heights ts ≤ n ↔ ∀ t ∈ ts, t.height ≤ n := by
  induction ts with
  | nil => simp [heights]
  | cons t ts ih => rw [heights, Nat.max_le, ih, List.forall_mem_cons]

theorem level_succ (k : Nat) (ts : List (Errand ι)) :
    level (k + 1) ts = (level k ts).flatMap followers := by
  induction k generalizing ts with
  | zero => rfl
  | succ k ih =>
      calc level (k + 2) ts
          = ts.flatMap fun t => (level k t.followers).flatMap followers := by
            rw [level]
            simp only [ih]
        _ = (level (k + 1) ts).flatMap followers := by rw [level, List.flatMap_assoc]

theorem level_eq_nil_iff {k : Nat} {ts : List (Errand ι)} : level k ts = [] ↔ heights ts ≤ k := by
  induction k generalizing ts with
  | zero =>
      cases ts with
      | nil => simp [level, heights]
      | cons t ts => simp [level, heights, height_eq]
  | succ k ih =>
      rw [level, List.flatMap_eq_nil_iff, heights_le_iff]
      refine forall₂_congr fun t _ => ?_
      rw [ih, height_eq, Nat.add_le_add_iff_right]

end Errand

namespace EventQueue

/-! ### Draining again and again -/

theorem runAll_errands (notes : List ι) (ts : List (Errand ι)) :
    runAll Errand.run notes ts = (notes ++ ts.map Errand.label, ts.flatMap Errand.followers) := by
  induction ts generalizing notes with
  | nil => simp [runAll]
  | cons t ts ih => simp [runAll, ih, Errand.run]

theorem waiting_foldl_post {α : Type} (q : EventQueue α) (as : List α) :
    (as.foldl post q).waiting = q.waiting ++ as := by
  induction as generalizing q with
  | nil => exact (List.append_nil _).symm
  | cons a as ih => rw [List.foldl_cons, ih, waiting_post, List.append_assoc, List.singleton_append]

/-- The labels noted and the queue that is left when errands were posted and the queue was then
drained a number of times. -/
def rounds (ts : List (Errand ι)) : Nat → List ι × EventQueue (Errand ι)
  | 0 => ([], ts.foldl post {})
  | k + 1 =>
    let (notes, q) := rounds ts k
    let (notes, q, _) := q.drain Errand.run notes
    (notes, q)

/-- **Every drain** runs one level and leaves the next. -/
theorem rounds_eq (ts : List (Errand ι)) (k : Nat) :
    rounds ts k =
      ((List.range k).flatMap fun j => (Errand.level j ts).map Errand.label,
        ⟨Errand.level k ts⟩) := by
  induction k with
  | zero =>
      have hposted : ts.foldl post ({} : EventQueue (Errand ι)) = ⟨ts⟩ :=
        congrArg EventQueue.mk (waiting_foldl_post {} ts)
      rw [rounds, hposted]
      rfl
  | succ k ih =>
      simp only [rounds, ih, drain, runAll_errands, ← Errand.level_succ]
      rw [List.range_succ, List.flatMap_append, List.flatMap_singleton]

/-- **Events run in the order in which they are posted.**  Errands are posted and the queue is drained
in any order, and while an errand runs it posts its followers and others post what they like.

* What ran and what waits is at any time all that was posted, in the order of posting; the numbers of
  what ran count on from zero, so nothing runs twice.
* One drain runs exactly what waits when it starts and tells how much that was; what is posted
  meanwhile waits for the next drain.
* Errands that are posted to a new queue, with nobody else posting, run in breadth-first order: the
  `k`-th drain runs level `k`, and nothing waits exactly when there were as many drains as the forest
  is high. -/
theorem events_run_as_posted (ops : List (Op ι)) :
    let d := Desk.after {} ops
    (d.ledger.posted.map (·.number) = List.range d.ledger.posted.length ∧
      d.ledger.ran ++ d.queue.waiting = d.ledger.posted ∧
      d.ledger.ran.map (·.number) = List.range d.ledger.ran.length) ∧
    (∀ others, let (ledger, queue, count) := d.queue.drain (Ledger.turn others) d.ledger
      ledger.ran = d.ledger.ran ++ d.queue.waiting ∧ count = d.queue.pending ∧
      ledger.posted = d.ledger.posted ++ queue.waiting ∧
      queue.waiting.map (·.errand)
        = d.queue.waiting.flatMap fun p => woven (others p.number) p.errand.followers) ∧
    ∀ (ts : List (Errand ι)) (k : Nat), let (notes, q) := rounds ts k
      notes = ((List.range k).flatMap fun j => (Errand.level j ts).map Errand.label) ∧
      q.waiting = Errand.level k ts ∧
      (q.drain Errand.run notes).1 = notes ++ (Errand.level k ts).map Errand.label ∧
      (q.drain Errand.run notes).2.2 = (Errand.level k ts).length ∧
      (q.waiting = [] ↔ Errand.heights ts ≤ k) := by
  intro d
  have hd : d.Ordered := Desk.ordered_after ops
  refine ⟨⟨hd.numbers, hd.accounted, hd.number_ran⟩, fun others => ?_, fun ts k => ?_⟩
  · exact ⟨Ledger.ran_runAll others _ _, rfl, Ledger.posted_runAll others _ _,
      Ledger.errands_runAll others _ _⟩
  · rw [rounds_eq]
    refine ⟨rfl, rfl, ?_, rfl, Errand.level_eq_nil_iff⟩
    rw [drain, runAll_errands]

end EventQueue
end GuestHost
