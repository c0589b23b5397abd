import GuestHost.Inbox
import Mathlib.Data.List.DropRight

/-! # What a watch has seen

A watch goes on one event at a time.  What is worth remembering of a step are its notes: a path was
touched, the timer fired, a file was handed over (`Watch.notes`).

* **One step.**  All that a step can come to is listed once (`Watch.Step`, `Watch.step_step`).
* **All steps.**  What a watch remembers can be read off its notes (`Watch.Kept`): the path touched
  last, and whether one was touched since the timer fired.  It hands over one file at most.
* **Handing over** happens when the timer fires and the path touched last leads to a regular file, and
  at no other time (`Watch.handed_iff`). -/

namespace GuestHost
namespace Watch

/-- What is worth remembering of a step. -/
inductive Note
  | touched (path : String)
  | fired
  | handed (s : Selection)
deriving DecidableEq

namespace Note

/-- The path that was touched. -/
def touched? : Note → Option String
  | touched path => some path
  | _ => none

/-- The file that was handed over. -/
def handed? : Note → Option Selection
  | handed s => some s
  | _ => none

end Note

/-- Notes in the order in which they were taken. -/
abbrev Notes := List Note

namespace Notes

/-- The paths that were touched, oldest first. -/
def touches (ns : Notes) : List String := ns.filterMap Note.touched?

/-- The paths that were touched since the timer fired last, oldest first. -/
def unsettled (ns : Notes) : List String := touches (ns.rtakeWhile (· ≠ .fired))

/-- The files that were handed over, oldest first. -/
def handed (ns : Notes) : List Selection := ns.filterMap Note.handed?

theorem touches_append (ns ms : Notes) : touches (ns ++ ms) = ns.touches ++ ms.touches :=
  List.filterMap_append

theorem handed_append (ns ms : Notes) : handed (ns ++ ms) = ns.handed ++ ms.handed :=
  List.filterMap_append

theorem unsettled_concat (ns : Notes) (n : Note) :
    unsettled (ns ++ [n]) = if n = .fired then [] else ns.unsettled ++ n.touched?.toList := by
  rw [unsettled, List.rtakeWhile_concat]
  by_cases hn : n = .fired
  · simp [hn, touches]
  · rw [if_pos (by simpa using hn), if_neg hn, touches_append]
    cases hpath : n.touched? <;> simp [unsettled, touches, hpath]

theorem getLast?_unsettled {ns : Notes} (h : ns.unsettled ≠ []) :
    ns.unsettled.getLast? = ns.touches.getLast? := by
  have hsplit := List.rdropWhile_append_rtakeWhile (p := fun n => decide (n ≠ Note.fired)) (l := ns)
  have htouches : ns.touches = touches (ns.rdropWhile fun n => decide (n ≠ .fired)) ++ ns.unsettled := by
    rw [unsettled, ← touches_append, hsplit]
  rw [htouches, List.getLast?_append_of_ne_nil _ h]

end Notes

/-- What is noted of a step. -/
def notes (w : Watch) (t : FileTree) (e : WatchEvent) : Notes :=
  (match e with
    | .touched path => if w.finished then [] else [.touched path]
    | .settled _ => if !w.finished && w.armed then [.fired] else []
    | _ => []) ++ (w.step t e).2.1.toList.map .handed

/-- All that a step can come to: the watch afterwards, what it hands over, and what is noted. -/
inductive Step (w : Watch) (t : FileTree) : WatchEvent → Watch → Option Selection → Notes → Prop
  /-- Nothing changes. -/
  | still (e : WatchEvent) : Step w t e w none []
  /-- The watch ends because its request was withdrawn. -/
  | ended (cancelled : w.cancelled = true) : Step w t .withdrawn { w with finished := true } none []
  /-- A path is noticed. -/
  | touched (path : String) (unfinished : w.finished = false) :
      Step w t (.touched path) { w with candidate := some path, armed := true } none [.touched path]
  /-- The timer fires and nothing is handed over.  The watch ends only if its request was
  withdrawn. -/
  | fired (obstacle : Option Fault) (finished : Bool) (unfinished : w.finished = false)
      (ended : finished = true → w.cancelled = true) :
      Step w t (.settled obstacle) { w with armed := false, finished } none [.fired]
  /-- The timer fires and a file is handed over. -/
  | handed (path : String) (c : Content) (unfinished : w.finished = false) (armed : w.armed = true)
      (wanted : w.cancelled = false) (candidate : w.candidate = some path)
      (file : t.stat path = .ok (.file c)) :
      Step w t (.settled none) { w with armed := false, finished := true }
        (some ⟨Path.base path, c.data⟩) [.fired, .handed ⟨Path.base path, c.data⟩]

/-- What reading the candidate comes to. -/
theorem regularFile?_eq_ok_iff {t : FileTree} {obstacle : Option Fault} {path : String}
    {s : Selection} : regularFile? t obstacle path = some (.ok s) ↔
      obstacle = none ∧ ∃ c, t.stat path = .ok (.file c) ∧ s = ⟨Path.base path, c.data⟩ := by
  unfold regularFile?
  split
  · rename_i c h
    simp [h, eq_comm]
  · simp
  · rename_i hnone hsome
    constructor
    · intro h
      cases h
    · rintro ⟨rfl, c, h, -⟩
      exact absurd rfl (hnone c h)

/-- **One step.** -/
theorem step_step (w : Watch) (t : FileTree) (e : WatchEvent) :
    Step w t e (w.step t e).1 (w.step t e).2.1 (w.notes t e) := by
  obtain ⟨cancelled, finished, candidate, armed⟩ := w
  cases finished with
  | true => cases e <;> exact .still _
  | false =>
      cases e with
      | touched path => exact .touched path rfl
      | passed path => exact .still _
      | trouble why => exact .still _
      | withdrawn =>
          cases cancelled with
          | true => exact .ended rfl
          | false => exact .still _
      | settled obstacle =>
          cases armed with
          | false => exact .still _
          | true =>
              simp only [notes, step, Bool.false_eq_true, if_false, Bool.not_false, Bool.true_and,
                if_true, Bool.not_true]
              cases hread : candidate.bind (regularFile? t obstacle) with
              | none => exact .fired obstacle false rfl nofun
              | some r =>
                  cases r with
                  | error f => exact .fired obstacle false rfl nofun
                  | ok s =>
                      cases cancelled with
                      | true => exact .fired obstacle true rfl fun _ => rfl
                      | false =>
                          obtain ⟨path, rfl, hpath⟩ := Option.bind_eq_some_iff.mp hread
                          obtain ⟨rfl, c, hfile, rfl⟩ := regularFile?_eq_ok_iff.mp hpath
                          exact .handed path c rfl rfl rfl rfl hfile

/-- What a watch remembers is what its notes say. -/
structure Kept (w : Watch) (ns : Notes) : Prop where
  candidate : w.candidate = ns.touches.getLast?
  armed : w.armed = true ↔ ns.unsettled ≠ []
  once : ns.handed.length ≤ 1
  finished : ns.handed ≠ [] → w.finished = true
  /-- A watch that was not withdrawn ends when its timer has fired. -/
  ended : w.finished = true → w.cancelled = true ∨ w.armed = false

theorem kept_new : Kept {} [] :=
  ⟨rfl, by simp [Notes.unsettled, Notes.touches], by simp [Notes.handed], by simp [Notes.handed],
    nofun⟩

theorem Kept.cancel {w : Watch} {ns : Notes} (hkept : Kept w ns) :
    Kept { w with cancelled := true } ns :=
  ⟨hkept.candidate, hkept.armed, hkept.once, hkept.finished, fun _ => .inl rfl⟩

theorem Kept.of_step {w w' : Watch} {ns more : Notes} {t : FileTree} {e : WatchEvent}
    {out : Option Selection} (hkept : Kept w ns) (hstep : Step w t e w' out more) :
    Kept w' (ns ++ more) := by
  -- An unfinished watch has not handed over anything yet.
  have hnothing : w.finished = false → ns.handed = [] := by
    intro hunfinished
    by_contra hhanded
    rw [hkept.finished hhanded] at hunfinished
    cases hunfinished
  cases hstep with
  | still e =>
      rw [List.append_nil]
      exact hkept
  | ended cancelled =>
      rw [List.append_nil]
      exact ⟨hkept.candidate, hkept.armed, hkept.once, fun _ => rfl, fun _ => .inl cancelled⟩
  | touched path unfinished =>
      refine ⟨?_, ?_, ?_, ?_, ?_⟩
      · rw [Notes.touches_append, show Notes.touches [.touched path] = [path] from rfl,
          List.getLast?_concat]
      · simp [Notes.unsettled_concat, Note.touched?]
      · rw [Notes.handed_append, hnothing unfinished]
        exact Nat.zero_le 1
      · rw [Notes.handed_append, hnothing unfinished]
        exact fun hhanded => absurd rfl hhanded
      · intro hfinished
        rw [show w.finished = true from hfinished] at unfinished
        cases unfinished
  | fired obstacle finished unfinished ended =>
      refine ⟨?_, ?_, ?_, ?_, fun _ => .inr rfl⟩
      · rw [Notes.touches_append, show Notes.touches [.fired] = [] from rfl, List.append_nil]
        exact hkept.candidate
      · simp [Notes.unsettled_concat]
      · rw [Notes.handed_append, hnothing unfinished]
        exact Nat.zero_le 1
      · rw [Notes.handed_append, hnothing unfinished]
        exact fun hhanded => absurd rfl hhanded
  | handed path c unfinished armed wanted candidate file =>
      refine ⟨?_, ?_, ?_, fun _ => rfl, fun _ => .inr rfl⟩
      · rw [Notes.touches_append, show Notes.touches [.fired, .handed _] = [] from rfl,
          List.append_nil]
        exact hkept.candidate
      · rw [List.append_cons, Notes.unsettled_concat, Notes.unsettled_concat]
        simp [Note.touched?]
      · rw [Notes.handed_append, hnothing unfinished]
        exact Nat.le_refl 1

/-- **All steps.**  One step keeps what a watch remembers as its notes say. -/
theorem Kept.step {w : Watch} {ns : Notes} (hkept : Kept w ns) (t : FileTree) (e : WatchEvent) :
    Kept (w.step t e).1 (ns ++ w.notes t e) :=
  hkept.of_step (w.step_step t e)

theorem handed_notes (w : Watch) (t : FileTree) (e : WatchEvent) :
    (w.notes t e).handed = (w.step t e).2.1.toList := by
  have hstep := w.step_step t e
  generalize (w.step t e).1 = w', (w.step t e).2.1 = out, w.notes t e = ns at hstep ⊢
  cases hstep <;> rfl

theorem cancelled_step (w : Watch) (t : FileTree) (e : WatchEvent) :
    (w.step t e).1.cancelled = w.cancelled := by
  have hstep := w.step_step t e
  generalize (w.step t e).1 = w', (w.step t e).2.1 = out, w.notes t e = ns at hstep ⊢
  cases hstep <;> rfl

/-- **Handing over.**  The timer of a watch that was not withdrawn fires, and the path touched last
leads to a regular file that can be read. -/
theorem handed_iff {w : Watch} {t : FileTree} {e : WatchEvent} {s : Selection} :
    (w.step t e).2.1 = some s ↔ e = .settled none ∧ w.isLive = true ∧ w.armed = true ∧
      ∃ path c, w.candidate = some path ∧ t.stat path = .ok (.file c) ∧
        s = ⟨Path.base path, c.data⟩ := by
  constructor
  · intro h
    have hstep := w.step_step t e
    rw [h] at hstep
    generalize (w.step t e).1 = w', w.notes t e = ns at hstep
    cases hstep with
    | handed path c unfinished armed wanted candidate file =>
        exact ⟨rfl, by simp [isLive, unfinished, wanted], armed, path, c, candidate, file, rfl⟩
  · rintro ⟨rfl, hlive, harmed, path, c, hcandidate, hfile, rfl⟩
    obtain ⟨hwanted, hunfinished⟩ : w.cancelled = false ∧ w.finished = false := by
      simpa [isLive] using hlive
    simp [step, hunfinished, harmed, hcandidate, regularFile?, hfile, hwanted]

end Watch
end GuestHost
