import GuestHost.Proofs.Exchange.Handshake

/-! # What a guest sees of a pending file

A guest asks for a file and polls the length until it is not zero.  Zero stands for no file, and it is
the length of an empty one.

* **One poll.**  The length is the one of the pending file in 32 bits, so it is zero without a file
  and for every file whose length is a multiple of `2 ^ 32` (`length_eq_zero_iff`).  Such a file is
  pending and not seen (`Exchange.Unseen`).
* **Polling** (`Exchange.await`).  A guest polls in rounds, and calls of all kinds come between.  Two
  questions that get the same answer at every poll are answered with yes at the same time
  (`await_congr`), and one that gets no at every poll is asked in vain (`await_eq_none`).
* As long as no choice with such a length is applied, a guest that waits for a length sees every file
  as soon as it is pending (`awaitLength_eq_awaitReady`).  One that meets an unseen file waits at least
  until another choice is applied (`awaitLength_eq_none`).

`polls_tell_ready_unless_unseen` puts this together.  The empty file is never seen
(`empty_file_looks_like_none`). -/

namespace GuestHost
namespace Exchange

/-- A file is pending, and its length in 32 bits is zero. -/
def Unseen (x : Exchange) : Prop := ∃ p, x.pending = some p ∧ UInt32.size ∣ p.data.size

/-! ### One poll -/

section poll
variable {x y : Exchange}

theorem stage_eq_ready_iff : x.stage = .ready ↔ x.pending ≠ none := by
  unfold stage
  cases x.pending <;> cases x.awaiting <;> simp

theorem Unseen.ready (hx : x.Unseen) : x.stage = .ready := by
  obtain ⟨p, hp, -⟩ := hx
  rw [stage_eq_ready_iff, hp]
  exact Option.some_ne_none p

theorem length_eq_zero_iff : x.length = 0 ↔ x.pending = none ∨ x.Unseen := by
  cases hp : x.pending with
  | none => simp [length, hp]
  | some p =>
      have hunseen : x.Unseen ↔ UInt32.size ∣ p.data.size := by simp [Unseen, hp]
      rw [← UInt32.toNat_inj, toNat_length hp, hunseen, Nat.dvd_iff_mod_eq_zero]
      simp

theorem length_ne_zero_iff : x.length ≠ 0 ↔ x.stage = .ready ∧ ¬ x.Unseen := by
  rw [Ne, length_eq_zero_iff, stage_eq_ready_iff, not_or]

/-- Two exchanges that answer the same length are in the same stage, as far as being ready goes, just
when both have an unseen file or none has. -/
theorem ready_iff_ready_iff (hlength : x.length = y.length) :
    ((x.stage = .ready ↔ y.stage = .ready) ↔ (x.Unseen ↔ y.Unseen)) := by
  have hx := length_ne_zero_iff (x := x)
  have hy := length_ne_zero_iff (x := y)
  rw [← hlength] at hy
  have hready : x.Unseen → x.stage = .ready := Unseen.ready
  have hready' : y.Unseen → y.stage = .ready := Unseen.ready
  tauto

end poll

theorem Follows.unseen_iff {x : Exchange} {k : Classifier} {h : History} (hx : x.Follows k h) :
    x.Unseen ↔ ∃ s, h.pending? = some s ∧ UInt32.size ∣ s.data.size := by
  unfold Unseen
  rw [hx.pending]
  cases h.pending? <;> simp [Classifier.pending]

theorem History.mem_applied_of_pending? {h : History} {s : Selection} (hs : h.pending? = some s) :
    s ∈ h.applied := by
  unfold History.pending? at hs
  split_ifs at hs
  exact List.mem_of_getLast? hs

/-! ### Polling -/

/-- The exchange at the first poll whose answer is yes, when calls come between the polls. -/
def await (asked : Exchange → Prop) [DecidablePred asked] (x : Exchange) :
    List (List Call) → Option Exchange
  | [] => if asked x then some x else none
  | calls :: rounds => if asked x then some x else (x.after calls).await asked rounds

/-- Polls the length until it is not zero. -/
def awaitLength (x : Exchange) (rounds : List (List Call)) : Option Exchange :=
  x.await (fun y => y.length ≠ 0) rounds

/-- Waits until a file is pending. -/
def awaitReady (x : Exchange) (rounds : List (List Call)) : Option Exchange :=
  x.await (fun y => y.stage = .ready) rounds

section await
variable {asked asked' : Exchange → Prop} [DecidablePred asked] [DecidablePred asked']

theorem await_congr {x : Exchange} {rounds : List (List Call)}
    (h : ∀ first, first <+: rounds →
      (asked (x.after first.flatten) ↔ asked' (x.after first.flatten))) :
    x.await asked rounds = x.await asked' rounds := by
  induction rounds generalizing x with
  | nil => simp only [await, show asked x ↔ asked' x from h [] (List.nil_prefix)]
  | cons calls rounds ih =>
      have hrest : (x.after calls).await asked rounds = (x.after calls).await asked' rounds := by
        apply ih
        intro first hfirst
        rw [← after_append, ← List.flatten_cons]
        exact h (calls :: first) (List.cons_prefix_cons.mpr ⟨rfl, hfirst⟩)
      simp only [await, hrest, show asked x ↔ asked' x from h [] (List.nil_prefix)]

theorem await_eq_none {x : Exchange} {rounds : List (List Call)}
    (h : ∀ first, first <+: rounds → ¬ asked (x.after first.flatten)) :
    x.await asked rounds = none := by
  induction rounds generalizing x with
  | nil => exact if_neg (h [] List.nil_prefix)
  | cons calls rounds ih =>
      rw [await, if_neg (show ¬ asked x from h [] List.nil_prefix)]
      apply ih
      intro first hfirst
      rw [← after_append, ← List.flatten_cons]
      exact h (calls :: first) (List.cons_prefix_cons.mpr ⟨rfl, hfirst⟩)

end await

/-! ### Runs -/

section run
variable (c : ExchangeConfig) (calls : List Call)

/-- No file is unseen when no choice of such a length was ever applied. -/
theorem not_unseen_after
    (h : ∀ s ∈ History.applied ((new c).history calls), ¬ UInt32.size ∣ s.data.size) :
    ¬ ((new c).after calls).Unseen := by
  rw [(follows_after c calls).unseen_iff]
  rintro ⟨s, hs, hdvd⟩
  exact h s (History.mem_applied_of_pending? hs) hdvd

/-- After an unseen file every length is zero, until another choice is applied. -/
theorem length_eq_zero_after {more : List Call} (hx : ((new c).after calls).Unseen)
    (ha : History.applied (((new c).after calls).history more) = []) :
    (((new c).after calls).after more).length = 0 := by
  obtain ⟨s, hs, hdvd⟩ := (follows_after c calls).unseen_iff.mp hx
  have hlength := (follows_after c (calls ++ more)).length
  rw [after_append, history_append, History.pending?_append _ _ ha, hs] at hlength
  rw [← UInt32.toNat_inj, hlength]
  split_ifs
  · exact Nat.mod_eq_zero_of_dvd hdvd
  · rfl

variable {c calls} {rounds : List (List Call)}

theorem awaitLength_eq_awaitReady
    (h : ∀ s ∈ History.applied ((new c).history (calls ++ rounds.flatten)),
      ¬ UInt32.size ∣ s.data.size) :
    ((new c).after calls).awaitLength rounds = ((new c).after calls).awaitReady rounds := by
  apply await_congr
  rintro first ⟨rest, rfl⟩
  have hseen : ¬ ((new c).after (calls ++ first.flatten)).Unseen := by
    apply not_unseen_after
    intro s hs
    apply h s
    rw [List.flatten_append, ← List.append_assoc, history_append, History.applied_append]
    exact List.mem_append_left _ hs
  rw [← after_append, length_ne_zero_iff]
  exact and_iff_left hseen

theorem awaitLength_eq_none (hx : ((new c).after calls).Unseen)
    (ha : History.applied (((new c).after calls).history rounds.flatten) = []) :
    ((new c).after calls).awaitLength rounds = none := by
  apply await_eq_none
  rintro first ⟨rest, rfl⟩
  rw [List.flatten_append, history_append, History.applied_append, List.append_eq_nil_iff] at ha
  exact not_not_intro (length_eq_zero_after c calls hx ha.1)

end run

/-- **A poll tells that a file is pending, unless the file is unseen**, in every state that an exchange
can be in.  Two states with the same length are both ready or both not, as long as none of them has an
unseen file.  A guest that polls the length therefore goes on exactly when a file is pending, whatever
is called between its polls, provided that no choice of a length divisible by `2 ^ 32` is applied.
While such a file is pending, the guest waits although the exchange is ready. -/
theorem polls_tell_ready_unless_unseen (c : ExchangeConfig) (calls : List Call) :
    let x := (new c).after calls
    let h := (new c).history calls
    (x.length ≠ 0 ↔ x.stage = .ready ∧ ¬ x.Unseen) ∧
    (x.Unseen ↔ ∃ s, h.pending? = some s ∧ UInt32.size ∣ s.data.size) ∧
    (∀ d more, let y := (new d).after more
      x.length = y.length →
        ((x.stage = .ready ↔ y.stage = .ready) ↔ (x.Unseen ↔ y.Unseen))) ∧
    (∀ rounds, (∀ s ∈ History.applied ((new c).history (calls ++ rounds.flatten)),
      ¬ UInt32.size ∣ s.data.size) → x.awaitLength rounds = x.awaitReady rounds) ∧
    (∀ rounds, x.Unseen → History.applied (x.history rounds.flatten) = [] →
      x.stage = .ready ∧ x.awaitLength rounds = none) := by
  intro x h
  refine ⟨length_ne_zero_iff, (follows_after c calls).unseen_iff, ?_, ?_, ?_⟩
  · intro d more y hlength
    exact ready_iff_ready_iff hlength
  · intro rounds hseen
    exact awaitLength_eq_awaitReady hseen
  · intro rounds hx ha
    exact ⟨hx.ready, awaitLength_eq_none hx ha⟩

/-- A file of one byte is seen as soon as it is chosen, and an empty one is waited for in vain. -/
theorem one_byte_seen_and_empty_file_missed :
    let rounds : List (List Call) := [[.complete ⟨"a.l3", #[7]⟩]]
    let x := (new {}).after [.request {}]
    let y := (new {}).after [.request {}, .complete ⟨"a.l3", #[]⟩]
    (∃ z, x.awaitLength rounds = some z ∧ z.length = 1) ∧
      y.stage = .ready ∧ y.awaitLength [[.close], [.request {}]] = none := by
  intro rounds x y
  have hx := (polls_tell_ready_unless_unseen {} [.request {}]).2.2.2.1 rounds
  have hy := polls_tell_ready_unless_unseen {} [.request {}, .complete ⟨"a.l3", #[]⟩]
  refine ⟨⟨x.after rounds.flatten, ?_, rfl⟩, ?_⟩
  · refine (hx ?_).trans rfl
    decide
  · exact hy.2.2.2.2 [[.close], [.request {}]] ⟨_, rfl, by decide⟩ rfl

/-- An empty file and one of `2 ^ 32` bytes are ready to be imported, and the guest polls the length
that it polls when nothing was ever asked for. -/
theorem empty_file_looks_like_none :
    let x := (new {}).after [.request {}, .complete ⟨"a.l3", #[]⟩]
    let file : Bytes := Array.replicate UInt32.size 7
    let y := (new {}).after [.request {}, .complete ⟨"b.l3", file⟩]
    let z := new {}
    x.stage = .ready ∧ x.length = 0 ∧ y.stage = .ready ∧ y.length = 0 ∧ z.stage = .idle ∧
      z.length = 0 := by
  intro x file
  have hsize : file.size = UInt32.size := Array.size_replicate
  clear_value file
  intro y z
  have hy : y.pending = some ⟨"b.l3", file, y.classifier.classify "b.l3"⟩ := rfl
  have hunseen : y.Unseen := ⟨_, hy, 1, by rw [Nat.mul_one]; exact hsize⟩
  exact ⟨rfl, rfl, hunseen.ready, length_eq_zero_iff.mpr (.inr hunseen), rfl, rfl⟩

end Exchange
end GuestHost
