import GuestHost.Proofs.Outlet.Folder
import GuestHost.Proofs.Text.Order
import GuestHost.Shelf.Service
import Mathlib.Data.List.Induction
import Mathlib.Data.List.Nodup

/-! # What is on the shelf

The shelf is a map from file names to artifacts that is held as a list.

* **Look-up** (`get?_put`, `get?_putAll`).  Under a file name stands the last artifact of that file
  name that was put there.
* **Stock** (`Stocked`).  No two artifacts have one name, and every name is one under which artifacts
  are kept.  So what is on the shelf is what can be looked up (`mem_iff_get?`).
* **Order.**  There is one way to put the artifacts in the order of their names
  (`eq_sorted_of_perm`), and it is the order of the bytes of the names (`sorted_increasing`). -/

namespace GuestHost

/-- An artifact under its file name. -/
def Artifact.filed? (a : Artifact) : Option Artifact :=
  (Artifact.fileName? a.name).map fun name => { a with name }

namespace Shelf

/-- Puts artifacts on the shelf, one after the other. -/
def putAll (s : Shelf) (as : List Artifact) : Shelf := as.foldl (fun s a => (s.put a).1) s

theorem putAll_cons (s : Shelf) (a : Artifact) (as : List Artifact) :
    s.putAll (a :: as) = (s.put a).1.putAll as := by
  simp only [putAll, List.foldl_cons]

theorem put_of_none {a : Artifact} (h : Artifact.fileName? a.name = none) (s : Shelf) :
    s.put a = (s, some (.artifactName a.name)) := by
  unfold put
  rw [h]

theorem put_of_some {a : Artifact} {name : String} (h : Artifact.fileName? a.name = some name)
    (s : Shelf) :
    s.put a = (⟨{ a with name } :: s.artifacts.filter (·.name ≠ name)⟩, none) := by
  unfold put
  rw [h]

/-! ### Look-up -/

/-- **One artifact.**  It is found under its file name, and all else is as it was. -/
theorem get?_put (s : Shelf) (a : Artifact) (name : String) :
    (s.put a).1.get? name = (a.filed?.filter (·.name = name)).or (s.get? name) := by
  cases hbase : Artifact.fileName? a.name with
  | none => simp [put_of_none hbase, Artifact.filed?, hbase]
  | some base =>
      rw [put_of_some hbase, Artifact.filed?, hbase]
      by_cases hname : base = name
      · simp [get?, hname, Option.filter]
      · have hother : (fun b : Artifact => decide (b.name ≠ base) && decide (b.name = name))
            = fun b => decide (b.name = name) := by
          funext b
          by_cases hb : b.name = name
          · simp [hb, Ne.symm hname]
          · simp [hb]
        simp [get?, hname, List.find?_filter, Option.filter, ← hother]

/-- **All artifacts.**  Under a name stands the last of those that have it for their file name. -/
theorem get?_putAll (as : List Artifact) (name : String) :
    (putAll {} as).get? name = ((as.filterMap Artifact.filed?).filter (·.name = name)).getLast? := by
  induction as using List.reverseRecOn with
  | nil => rfl
  | append_singleton as a ih =>
      have hlast : (([a].filterMap Artifact.filed?).filter (·.name = name)).getLast?
          = a.filed?.filter (·.name = name) := by
        cases hfiled : a.filed? with
        | none => simp [hfiled]
        | some b => by_cases hb : b.name = name <;> simp [hfiled, hb, Option.filter]
      rw [putAll, List.foldl_append, List.foldl_cons, List.foldl_nil, get?_put, ← putAll, ih,
        List.filterMap_append, List.filter_append, List.getLast?_append, hlast]

/-! ### Stock -/

/-- No name is there twice, and all are names under which artifacts are kept. -/
structure Stocked (s : Shelf) : Prop where
  nodup : (s.artifacts.map (·.name)).Nodup
  kept : ∀ a ∈ s.artifacts, Artifact.Kept a.name

theorem Stocked.put {s : Shelf} (h : s.Stocked) (a : Artifact) : (s.put a).1.Stocked := by
  cases hbase : Artifact.fileName? a.name with
  | none => rwa [put_of_none hbase]
  | some base =>
      rw [put_of_some hbase]
      have hsub : (s.artifacts.filter (·.name ≠ base)).Sublist s.artifacts := List.filter_sublist
      refine ⟨?_, ?_⟩
      · rw [List.map_cons, List.nodup_cons]
        refine ⟨?_, (hsub.map _).nodup h.nodup⟩
        rw [List.mem_map]
        rintro ⟨b, hb, hname⟩
        exact of_decide_eq_true (List.mem_filter.mp hb).2 hname
      · intro b hb
        rcases List.mem_cons.mp hb with rfl | hb
        · exact Artifact.kept_of_fileName? hbase
        · exact h.kept b (hsub.subset hb)

theorem stocked_putAll {s : Shelf} (h : s.Stocked) (as : List Artifact) :
    (s.putAll as).Stocked := by
  induction as generalizing s with
  | nil => exact h
  | cons a as ih =>
      rw [putAll_cons]
      exact ih (h.put a)

theorem stocked_empty : Stocked {} := ⟨List.nodup_nil, by simp⟩

theorem Stocked.mem_iff_get? {s : Shelf} (h : s.Stocked) {a : Artifact} :
    a ∈ s.artifacts ↔ s.get? a.name = some a :=
  Named.mem_iff_find? Artifact.name h.nodup

theorem name_of_get? {s : Shelf} {name : String} {a : Artifact} (h : s.get? name = some a) :
    a.name = name := by
  simpa using List.find?_some h

theorem Stocked.kept_of_get? {s : Shelf} (h : s.Stocked) {name : String} {a : Artifact}
    (ha : s.get? name = some a) : Artifact.Kept name := by
  have hkept := h.kept a (List.mem_of_find?_eq_some ha)
  rwa [name_of_get? ha] at hkept

/-! ### Order -/

theorem sorted_perm (s : Shelf) : s.sorted.Perm s.artifacts := List.mergeSort_perm _ _

theorem pairwise_sorted (s : Shelf) : s.sorted.Pairwise fun a b => a.name ≤ b.name :=
  Named.pairwise_mergeSort Artifact.name s.artifacts

/-- However the artifacts were gathered, in the order of their names they are this list. -/
theorem Stocked.eq_sorted_of_perm {s : Shelf} (h : s.Stocked) {l : List Artifact}
    (hperm : l.Perm s.artifacts) (hl : l.Pairwise fun a b => a.name ≤ b.name) : l = s.sorted := by
  refine List.Perm.eq_of_pairwise ?_ hl s.pairwise_sorted (hperm.trans s.sorted_perm.symm)
  intro a b ha hb hab hba
  exact List.inj_on_of_nodup_map h.nodup (hperm.mem_iff.mp ha) (s.sorted_perm.mem_iff.mp hb)
    (String.le_antisymm hab hba)

theorem Stocked.sorted_increasing {s : Shelf} (h : s.Stocked) : s.sorted.Pairwise fun a b =>
    (Utf8.encode a.name).toList < (Utf8.encode b.name).toList :=
  Named.increasing_mergeSort Artifact.name h.nodup

end Shelf
end GuestHost
