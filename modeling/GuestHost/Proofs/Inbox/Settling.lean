import GuestHost.Proofs.Inbox.Discipline

/-! # What is left when the timer fires

Several paths may be touched before the timer of a watch fires.  The watch remembers only the last of
them:

* A file is handed over just if the path touched **last** is a regular file
  (`settled_takes_last_touched`).  So one is handed over if all paths touched since the timer fired
  are regular files.
* A file that was dropped is left alone if a directory was made after it
  (`file_before_directory_left`): the timer stops, and nothing starts it again for that file. -/

namespace GuestHost

/-- The timer of a watch that was not withdrawn fires: the path touched last decides. -/
theorem Watch.Kept.settled_iff {w : Watch} {ns : Watch.Notes} (hkept : w.Kept ns)
    (hwanted : w.cancelled = false) {t : FileTree} {s : Selection} :
    (w.step t (.settled none)).2.1 = some s ↔ ∃ path c, ns.unsettled.getLast? = some path ∧
      t.stat path = .ok (.file c) ∧ s = ⟨Path.base path, c.data⟩ := by
  rw [Watch.handed_iff]
  constructor
  · rintro ⟨-, -, harmed, path, c, hcandidate, hfile⟩
    refine ⟨path, c, ?_, hfile⟩
    rw [Watch.Notes.getLast?_unsettled (hkept.armed.mp harmed), ← hkept.candidate, hcandidate]
  · rintro ⟨path, c, hlast, hfile⟩
    have hne : ns.unsettled ≠ [] := List.ne_nil_of_mem (List.mem_of_getLast? hlast)
    have harmed : w.armed = true := hkept.armed.mpr hne
    -- The timer of a watch that ended does not run, unless its request was withdrawn.
    have hunfinished : w.finished = false := by
      by_contra hfinished
      have hended := hkept.ended (Bool.not_eq_false _ ▸ hfinished)
      simp [hwanted, harmed] at hended
    refine ⟨rfl, ?_, harmed, path, c, ?_, hfile⟩
    · rw [Watch.isLive, hwanted, hunfinished]
      rfl
    · rw [hkept.candidate, ← Watch.Notes.getLast?_unsettled hne, hlast]

namespace Inbox

/-- The watch of a request that was accepted and not withdrawn since. -/
theorem Recorded.exists_wanted {b : Inbox} {h : History} (hrec : Recorded b h) {k : Nat}
    (hopened : .opened k ∈ h) (hwanted : ∀ y ∈ h.since k, y.withdraws k = false) :
    ∃ w, b.watches[k]? = some w ∧ w.cancelled = false ∧ w.Kept (h.notes k) := by
  have hk : k < b.watches.length := by
    rwa [← History.mem_opens_iff, hrec.opens, List.mem_range] at hopened
  have htraced := hrec.traced k _ (List.getElem?_eq_getElem hk)
  refine ⟨_, List.getElem?_eq_getElem hk, ?_, htraced.kept⟩
  rw [htraced.cancelled]
  exact List.any_eq_false.mpr fun y hy => Bool.eq_false_iff.mp (hwanted y hy)

/-- **What is left when the timer fires.**  After any acts, for a request that was accepted and not
withdrawn since: a file is handed over just if the path touched last since the timer fired is a regular
file, and then it is that one.  Hence one is handed over if something was touched and all paths touched
since then are regular files. -/
theorem settled_takes_last_touched (directory : String) (settle : Duration) (files : FileTree)
    (acts : List Act) (k : Nat) :
    let x := (Scene.new directory settle files).after acts
    let h := (Scene.new directory settle files).history acts
    .opened k ∈ h → (∀ y ∈ h.since k, y.withdraws k = false) →
      (∀ s, (x.inbox.step x.files k (.settled none)).2.1 = some s ↔
        ∃ path c, (h.notes k).unsettled.getLast? = some path ∧
          x.files.stat path = .ok (.file c) ∧ s = ⟨Path.base path, c.data⟩) ∧
      ((h.notes k).unsettled ≠ [] →
        (∀ path ∈ (h.notes k).unsettled, ∃ c, x.files.stat path = .ok (.file c)) →
        ∃ s, (x.inbox.step x.files k (.settled none)).2.1 = some s) := by
  intro x h hopened hwanted
  have hrec : Recorded x.inbox h :=
    Recorded.after (x := .new directory settle files) (.new directory settle) acts
  obtain ⟨w, hw, hlive, hkept⟩ := hrec.exists_wanted hopened hwanted
  have hlast : ∀ s, (x.inbox.step x.files k (.settled none)).2.1 = some s ↔
      ∃ path c, (h.notes k).unsettled.getLast? = some path ∧
        x.files.stat path = .ok (.file c) ∧ s = ⟨Path.base path, c.data⟩ := by
    intro s
    rw [← hkept.settled_iff hlive, Inbox.step, hw]
  refine ⟨hlast, fun hne hfiles => ?_⟩
  obtain ⟨c, hfile⟩ := hfiles _ (List.getLast_mem hne)
  exact ⟨_, (hlast _).mpr ⟨_, c, List.getLast?_eq_some_getLast hne, hfile, rfl⟩⟩

/-- Files among which there are a dropped file and a directory. -/
def droppedFiles : FileTree :=
  (FileTree.start.provide "in/a.l3" (.file (.bytes ⟨[1, 2]⟩))).provide "in/d" .directory

/-- A file is dropped after a directory was made, and it is handed over. -/
theorem file_after_directory_handed :
    let acts : List Act := [.request none, .change droppedFiles, .event 0 (.touched "in/d"),
      .event 0 (.touched "in/a.l3")]
    let x := (Scene.new "in" ⟨1⟩ .start).after acts
    let h := (Scene.new "in" ⟨1⟩ .start).history acts
    .opened 0 ∈ h ∧ (∀ y ∈ h.since 0, y.withdraws 0 = false) ∧
      (x.inbox.step x.files 0 (.settled none)).2.1 = some ⟨"a.l3", ⟨[1, 2]⟩⟩ := by
  intro acts x h
  have hopened : .opened 0 ∈ h := by decide +kernel
  have hwanted : ∀ y ∈ h.since 0, y.withdraws 0 = false := by decide +kernel
  have hlast : (h.notes 0).unsettled.getLast? = some "in/a.l3" := by decide +kernel
  refine ⟨hopened, hwanted, ?_⟩
  rw [(settled_takes_last_touched "in" ⟨1⟩ .start acts 0 hopened hwanted).1]
  exact ⟨"in/a.l3", .bytes ⟨[1, 2]⟩, hlast, rfl, by decide +kernel⟩

/-- A file is dropped before a directory is made.  The request stands, the file was touched and is
there when the timer fires, and yet it is not handed over; the timer stops. -/
theorem file_before_directory_left :
    let acts : List Act := [.request none, .change droppedFiles, .event 0 (.touched "in/a.l3"),
      .event 0 (.touched "in/d")]
    let x := (Scene.new "in" ⟨1⟩ .start).after acts
    let h := (Scene.new "in" ⟨1⟩ .start).history acts
    .opened 0 ∈ h ∧ (∀ y ∈ h.since 0, y.withdraws 0 = false) ∧
      "in/a.l3" ∈ (h.notes 0).unsettled ∧
      x.files.stat "in/a.l3" = .ok (.file (.bytes ⟨[1, 2]⟩)) ∧
      (h.notes 0).handed = [] ∧ (x.inbox.step x.files 0 (.settled none)).2.1 = none ∧
      (x.inbox.step x.files 0 (.settled none)).1.watches.map (·.armed) = [false] :=
  ⟨by decide +kernel, by decide +kernel, by decide +kernel, rfl, by decide +kernel,
    by decide +kernel, by decide +kernel⟩

end Inbox
end GuestHost
