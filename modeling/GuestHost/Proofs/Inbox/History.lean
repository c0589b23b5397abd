import GuestHost.Proofs.Inbox.Watch

/-! # What happens to an inbox

Requests are made and withdrawn, watches go on, and files change underneath, in any order (`Scene`).
What happened so far is written down (`History`): a request was accepted, a request was withdrawn, the
inbox was closed, a watch took a note.

* What a run hands over is what the watches noted of it (`handed_history`).
* To touch a name, or to leave the directory alone, is a run of events, one for each watch
  (`after_touch`, `after_rest`), so what is known of all runs is known of these. -/

namespace GuestHost
namespace Inbox

/-- An inbox and the files underneath. -/
structure Scene where
  inbox : Inbox
  files : FileTree

/-- What can be done to an inbox, and around it. -/
inductive Act
  /-- A file is asked for.  The system may refuse to watch the directory. -/
  | request (refusal : Option WatchRefusal)
  /-- A request is withdrawn by its owner. -/
  | withdraw (k : Nat)
  | close
  /-- A watch goes on by one event. -/
  | event (k : Nat) (e : WatchEvent)
  /-- Files are created, written, replaced or removed. -/
  | change (files : FileTree)

namespace Scene

/-- An inbox without requests. -/
def new (directory : String) (settle : Duration) (files : FileTree) : Scene :=
  ⟨.new directory settle, files⟩

/-- Carries out an act. -/
def act (x : Scene) : Act → Scene
  | .request refusal =>
    let (inbox, files, _) := x.inbox.request x.files refusal
    ⟨inbox, files⟩
  | .withdraw k => { x with inbox := x.inbox.cancel k }
  | .close => { x with inbox := x.inbox.close }
  | .event k e => { x with inbox := (x.inbox.step x.files k e).1 }
  | .change files => { x with files }

/-- The scene after acts. -/
def after (x : Scene) (acts : List Act) : Scene := acts.foldl act x

end Scene

/-! ### Histories -/

/-- What can happen to requests. -/
inductive Happening
  /-- A request was accepted. -/
  | opened (k : Nat)
  /-- A request was withdrawn by its owner. -/
  | withdrawn (k : Nat)
  | closed
  /-- The watch of a request took a note. -/
  | noted (k : Nat) (note : Watch.Note)
deriving DecidableEq

namespace Happening

/-- The number of the request that was accepted. -/
def opened? : Happening → Option Nat
  | opened k => some k
  | _ => none

/-- What the watch of a request noted. -/
def noted? (k : Nat) : Happening → Option Watch.Note
  | noted j note => if j = k then some note else none
  | _ => none

/-- Whether an earlier request is withdrawn by this. -/
def withdraws (k : Nat) : Happening → Bool
  | opened _ => true
  | withdrawn j => j = k
  | closed => true
  | noted _ _ => false

end Happening

/-- Happenings in the order in which they came. -/
abbrev History := List Happening

namespace History

variable {h : History} {k : Nat}

/-- The requests that were accepted, oldest first. -/
def opens (h : History) : List Nat := h.filterMap Happening.opened?

/-- What the watch of a request noted, oldest first. -/
def notes (h : History) (k : Nat) : Watch.Notes := h.filterMap (Happening.noted? k)

/-- What happened since a request was accepted. -/
def since : History → Nat → History
  | [], _ => []
  | y :: later, k => if y = .opened k then later else since later k

theorem opens_append (h l : History) : opens (h ++ l) = h.opens ++ l.opens := List.filterMap_append

theorem notes_append (h l : History) (k : Nat) : notes (h ++ l) k = h.notes k ++ l.notes k :=
  List.filterMap_append

theorem mem_opens_iff : k ∈ h.opens ↔ .opened k ∈ h := by
  rw [opens, List.mem_filterMap]
  constructor
  · rintro ⟨y, hy, hk⟩
    cases y with
    | opened j => cases hk; exact hy
    | _ => cases hk
  · intro hk
    exact ⟨_, hk, rfl⟩

theorem since_append (hk : .opened k ∈ h) (l : History) : since (h ++ l) k = h.since k ++ l := by
  induction h with
  | nil => cases hk
  | cons y later ih =>
      rw [List.cons_append, since, since]
      split_ifs with hy
      · rfl
      · exact ih ((List.mem_cons.mp hk).resolve_left (Ne.symm hy))

theorem since_opened (hk : .opened k ∉ h) : since (h ++ [.opened k]) k = [] := by
  induction h with
  | nil => simp [since]
  | cons y later ih =>
      rw [List.mem_cons, not_or] at hk
      rw [List.cons_append, since, if_neg (Ne.symm hk.1), ih hk.2]

theorem notes_map_noted (ns : Watch.Notes) (j k : Nat) :
    notes (ns.map (.noted j)) k = if j = k then ns else [] := by
  rw [notes, List.filterMap_map]
  split_ifs with hj
  · exact (List.filterMap_congr fun n _ => by simp [Happening.noted?, hj]).trans List.filterMap_some
  · exact List.filterMap_eq_nil_iff.mpr fun n _ => by simp [Happening.noted?, hj]

theorem any_map_noted (ns : Watch.Notes) (j k : Nat) :
    (ns.map (Happening.noted j)).any (·.withdraws k) = false := by
  rw [List.any_map]
  exact List.any_eq_false.mpr fun _ _ => Bool.false_ne_true

theorem opens_map_noted (ns : Watch.Notes) (j : Nat) : opens (ns.map (.noted j)) = [] := by
  rw [opens, List.filterMap_map]
  exact List.filterMap_eq_nil_iff.mpr fun n _ => rfl

end History

/-- What an act makes happen. -/
def Scene.happenings (x : Scene) : Act → History
  | .request refusal =>
    match (x.inbox.request x.files refusal).2.2.1 with
    | .ok k => [.opened k]
    | .error _ => []
  | .withdraw k => if k < x.inbox.watches.length then [.withdrawn k] else []
  | .close => [.closed]
  | .event k e =>
    match x.inbox.watches[k]? with
    | none => []
    | some w => (w.notes x.files e).map (.noted k)
  | .change _ => []

/-- What an act hands over, with the number of the request. -/
def Scene.gives (x : Scene) : Act → List (Nat × Selection)
  | .event k e => (x.inbox.step x.files k e).2.1.toList.map (k, ·)
  | _ => []

/-- What acts make happen, in order. -/
def Scene.history (x : Scene) : List Act → History
  | [] => []
  | a :: acts => x.happenings a ++ (x.act a).history acts

/-- What acts hand over, in order. -/
def Scene.given (x : Scene) : List Act → List (Nat × Selection)
  | [] => []
  | a :: acts => x.gives a ++ (x.act a).given acts

/-! ### What is handed over is noted -/

theorem handed_happenings (x : Scene) (a : Act) (k : Nat) :
    ((x.happenings a).notes k).handed = ((x.gives a).filter (·.1 = k)).map (·.2) := by
  cases a with
  | event j e =>
      cases hw : x.inbox.watches[j]? with
      | none => simp [Scene.happenings, Scene.gives, Inbox.step, hw, History.notes, Watch.Notes.handed]
      | some w =>
          simp only [Scene.happenings, Scene.gives, Inbox.step, hw]
          rw [History.notes_map_noted]
          split_ifs with hj
          · rw [Watch.handed_notes, List.filter_eq_self.mpr (by simp [hj]), List.map_map]
            exact (List.map_id _).symm
          · rw [List.filter_eq_nil_iff.mpr (by simp [hj])]
            rfl
  | request refusal =>
      simp only [Scene.happenings, Scene.gives]
      split <;> rfl
  | withdraw j =>
      simp only [Scene.happenings, Scene.gives]
      split_ifs <;> rfl
  | close => rfl
  | change files => rfl

/-- What a run hands over for a request is what its watch noted. -/
theorem handed_history (x : Scene) (acts : List Act) (k : Nat) :
    ((x.history acts).notes k).handed = ((x.given acts).filter (·.1 = k)).map (·.2) := by
  induction acts generalizing x with
  | nil => rfl
  | cons a acts ih =>
      rw [Scene.history, Scene.given, History.notes_append, Watch.Notes.handed_append,
        handed_happenings, ih, List.filter_append, List.map_append]

/-! ### One event for each watch -/

/-- An event for each watch, the first of which has the given number. -/
def Act.each (e : Watch → WatchEvent) : Nat → List Watch → List Act
  | _, [] => []
  | k, w :: ws => .event k (e w) :: each e (k + 1) ws

/-- The watches before those that go on do not matter, so the induction is on the others. -/
theorem run_each (b : Inbox) (t : FileTree) (e : Watch → WatchEvent) (ws : List Watch) :
    ∀ done : List Watch,
      (⟨{ b with watches := done ++ ws }, t⟩ : Scene).after (Act.each e done.length ws)
        = ⟨{ b with watches := done ++ (stepAll t e done.length ws).1 }, t⟩ ∧
      (⟨{ b with watches := done ++ ws }, t⟩ : Scene).given (Act.each e done.length ws)
        = (stepAll t e done.length ws).2.1 := by
  induction ws with
  | nil => exact fun done => ⟨rfl, rfl⟩
  | cons w ws ih =>
      intro done
      have hact : (⟨{ b with watches := done ++ w :: ws }, t⟩ : Scene).act (.event done.length (e w))
          = ⟨{ b with watches := (done ++ [(w.step t (e w)).1]) ++ ws }, t⟩ := by
        simp [Scene.act, Inbox.step]
      have hgives : (⟨{ b with watches := done ++ w :: ws }, t⟩ : Scene).gives
          (.event done.length (e w)) = (w.step t (e w)).2.1.toList.map (done.length, ·) := by
        simp [Scene.gives, Inbox.step]
      have hlength : (done ++ [(w.step t (e w)).1]).length = done.length + 1 := by simp
      obtain ⟨hafter, hgiven⟩ := ih (done ++ [(w.step t (e w)).1])
      rw [hlength] at hafter hgiven
      constructor
      · rw [Act.each, Scene.after, List.foldl_cons, hact]
        exact hafter.trans (by simp [stepAll])
      · rw [Act.each, Scene.given, hact, hgives, hgiven]
        rfl

/-- **Touching a name** is a run of events, one for each watch. -/
theorem after_touch (b : Inbox) (t : FileTree) (name : String) :
    ∃ acts, (⟨b, t⟩ : Scene).after acts = ⟨b.touch t name, t⟩ := by
  unfold touch
  split_ifs
  · exact ⟨[], rfl⟩
  · exact ⟨_, (run_each b t _ b.watches []).1⟩

/-- **Leaving the directory alone** is a run of events, one for each watch, and hands over what they
hand over. -/
theorem after_rest (b : Inbox) (t : FileTree) :
    ∃ acts, (⟨b, t⟩ : Scene).after acts = ⟨(b.rest t).1, t⟩ ∧
      (⟨b, t⟩ : Scene).given acts = (b.rest t).2.1 :=
  ⟨_, run_each b t _ b.watches []⟩

end Inbox
end GuestHost
