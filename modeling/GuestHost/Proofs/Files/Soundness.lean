import GuestHost.Proofs.Files.Frame
import GuestHost.Proofs.Text.Order
import Mathlib.Data.List.Nodup

/-! # Trees that can arise

Files have names that lead down, without slashes in them, and no two files are at one place
(`FileTree.Sound`).  The tree that a host starts with is like that, and every operation keeps it so.

In such a tree the entries of a directory have different names, and are listed in byte order of them
(`FileTree.Sound.increasing_children`). -/

namespace GuestHost

/-- A name of a file: it leads down, and there is no slash in it. -/
structure Path.Plain (n : String) : Prop extends Path.Proper n where
  no_slash : '/' ∉ n.toList

namespace FileTree

/-- Files have plain names, and places of their own. -/
structure Sound (t : FileTree) : Prop where
  home : ∀ n ∈ t.home, Path.Plain n
  names : ∀ p ∈ t.entries.map (·.1), ∀ n ∈ p, Path.Plain n
  places : (t.entries.map (·.1)).Nodup

variable {t : FileTree}

theorem Sound.plain_of_locate (h : t.Sound) {path : String} {p : Place} (hp : t.locate path = .ok p) :
    ∀ n ∈ p, Path.Plain n := by
  obtain rfl := locate_eq_placeOf hp
  have hstart : ∀ n ∈ (if Path.isRooted path then [] else t.home), Path.Plain n := by
    split_ifs
    · simp
    · exact h.home
  intro n hn
  refine ⟨Path.proper_of_mem_walk (fun m hm => (hstart m hm).toProper) n hn, ?_⟩
  rcases Path.mem_of_mem_walk hn with hn | hn
  · exact (hstart n hn).no_slash
  · exact Path.not_slash_of_mem_names hn

/-! ### Operations -/

theorem places_put (t : FileTree) (p : Place) (e : Entry) :
    (t.put p e).entries.map (·.1) =
      if t.entries.any (·.1 = p) then t.entries.map (·.1) else t.entries.map (·.1) ++ [p] := by
  unfold put
  split_ifs with hany
  · rw [List.map_map]
    apply List.map_congr_left
    intro entry _
    simp only [Function.comp_apply]
    split_ifs with hp
    · rfl
    · rfl
  · simp

theorem Sound.put (h : t.Sound) {p : Place} (hp : ∀ n ∈ p, Path.Plain n) (e : Entry) :
    (t.put p e).Sound := by
  refine ⟨by simpa using h.home, ?_, ?_⟩
  · rw [places_put]
    split_ifs
    · exact h.names
    · intro q hq
      rcases List.mem_append.mp hq with hq | hq
      · exact h.names q hq
      · obtain rfl := List.mem_singleton.mp hq
        exact hp
  · rw [places_put]
    split_ifs with hany
    · exact h.places
    · -- The place is a new one.
      have hnew : p ∉ t.entries.map (·.1) := by simpa using hany
      rw [List.nodup_append]
      refine ⟨h.places, List.nodup_singleton p, ?_⟩
      intro q hq q' hq' hsame
      obtain rfl := List.mem_singleton.mp hq'
      exact hnew (hsame ▸ hq)

theorem Sound.erase (h : t.Sound) (p : Place) : (t.erase p).Sound := by
  have hsub : ((t.erase p).entries.map (·.1)).Sublist (t.entries.map (·.1)) :=
    List.filter_sublist.map _
  exact ⟨h.home, fun q hq => h.names q (hsub.subset hq), hsub.nodup h.places⟩

theorem sound_start : start.Sound := by
  have hwork : Path.Plain "work" := ⟨⟨by decide, by decide, by decide⟩, by decide⟩
  have hdev : Path.Plain "dev" := ⟨⟨by decide, by decide, by decide⟩, by decide⟩
  have hfull : Path.Plain "full" := ⟨⟨by decide, by decide, by decide⟩, by decide⟩
  exact ⟨by simp [start, hwork], by simp [start, hwork, hdev, hfull], by decide⟩

theorem Sound.makeDirectory (h : t.Sound) {path : String} {t' : FileTree}
    (ht' : t.makeDirectory path = .ok t') : t'.Sound := by
  unfold FileTree.makeDirectory at ht'
  split at ht'
  · split at ht'
    · cases ht'
    · rename_i p hp
      split_ifs at ht'
      cases ht'
      exact h.put (h.plain_of_locate hp) _
  · rename_i p hp
    split_ifs at ht'
    cases ht'
    exact h.put (h.plain_of_locate hp) _

theorem Sound.makeDirectoriesWithin (h : t.Sound) (fuel : Nat) (path : String) :
    (t.makeDirectoriesWithin fuel path).1.Sound := by
  induction fuel generalizing t path with
  | zero => exact h
  | succ fuel ih =>
      unfold FileTree.makeDirectoriesWithin
      split
      · exact h
      · exact h
      · have habove : (if parentOf path = "" then (t, (.ok () : Except Fault Unit))
            else t.makeDirectoriesWithin fuel (parentOf path)).1.Sound := by
          split_ifs
          · exact h
          · exact ih h (parentOf path)
        simp only
        generalize (if parentOf path = "" then (t, (.ok () : Except Fault Unit))
            else t.makeDirectoriesWithin fuel (parentOf path)) = above at habove
        obtain ⟨t', f | u⟩ := above
        · exact habove
        · simp only
          cases hmade : t'.makeDirectory path with
          | ok t'' => exact habove.makeDirectory hmade
          | error e =>
              simp only
              split <;> exact habove

theorem Sound.makeDirectories (h : t.Sound) (path : String) : (t.makeDirectories path).1.Sound :=
  h.makeDirectoriesWithin _ path

theorem Sound.create (h : t.Sound) {path : String} {t' : FileTree} {p : Place}
    (hcreate : t.create path = .ok (t', p)) : t'.Sound ∧ ∀ n ∈ p, Path.Plain n := by
  unfold FileTree.create at hcreate
  split at hcreate
  · cases hcreate
  · rename_i q hq
    cases hcreate
    exact ⟨h, h.plain_of_locate (locate_of_locateForWriting hq).1⟩
  · rename_i q _ _ hq
    cases hcreate
    have hplain := h.plain_of_locate (locate_of_locateForWriting hq).1
    exact ⟨h.put hplain _, hplain⟩

theorem Sound.writeFile (h : t.Sound) (path : String) (content : Bytes) :
    (t.writeFile path content).1.Sound := by
  unfold FileTree.writeFile
  split
  · exact h
  · rename_i t' p hcreate
    obtain ⟨hsound, hplain⟩ := h.create hcreate
    split
    · exact hsound
    · exact hsound.put hplain _

theorem Sound.provide (h : t.Sound) (path : String) (e : Entry) : (t.provide path e).Sound := by
  have habove : (if parentOf path = "" then t else (t.makeDirectories (parentOf path)).1).Sound := by
    split_ifs
    · exact h
    · exact h.makeDirectories _
  unfold FileTree.provide
  simp only
  split
  · exact habove.makeDirectories path
  · split
    · rename_i p hp
      exact habove.put (habove.plain_of_locate hp) _
    · exact habove

theorem Sound.remove (h : t.Sound) (path : String) : (t.remove path).Sound := by
  unfold FileTree.remove
  split
  · exact h.erase _
  · exact h

theorem Sound.move (h : t.Sound) (old new : String) : (t.move old new).Sound := by
  unfold FileTree.move
  split
  · exact (h.remove old).provide new _
  · exact h

/-! ### Directories -/

theorem map_filterMap_sublist {α β γ : Type} {f : α → Option β} {g : β → γ} {k : α → γ}
    (h : ∀ a b, f a = some b → g b = k a) (l : List α) :
    ((l.filterMap f).map g).Sublist (l.map k) := by
  induction l with
  | nil => exact List.Sublist.refl []
  | cons a l ih =>
      rw [List.filterMap_cons, List.map_cons]
      cases hf : f a with
      | none => exact ih.cons _
      | some b =>
          rw [List.map_cons, h a b hf]
          exact ih.cons_cons _

/-- The entry of a directory that a file is, by its name. -/
def entryIn (p : Place) : Place × Entry → Option (String × Entry)
  | (q, e) => if q ≠ [] ∧ q.dropLast = p then q.getLast?.map (·, e) else none

theorem place_of_entryIn {p : Place} {a : Place × Entry} {b : String × Entry}
    (hb : entryIn p a = some b) : p ++ [b.1] = a.1 := by
  obtain ⟨q, e⟩ := a
  obtain ⟨n, e'⟩ := b
  rw [entryIn] at hb
  split_ifs at hb with hq
  obtain ⟨n', hlast, hn'⟩ := Option.map_eq_some_iff.mp hb
  cases hn'
  obtain ⟨init, hinit⟩ := List.getLast?_eq_some_iff.mp hlast
  rw [← hq.2, hinit, List.dropLast_concat]

/-- The entries of a directory have plain names, and are in byte order of them. -/
theorem Sound.increasing_children (h : t.Sound) (p : Place) :
    (∀ entry ∈ t.children p, Path.Plain entry.1) ∧
    (t.children p).Pairwise fun a b => (Utf8.encode a.1).toList < (Utf8.encode b.1).toList := by
  have hplace : ∀ a b, entryIn p a = some b → p ++ [b.1] = a.1 := fun _ _ => place_of_entryIn
  have hsub := map_filterMap_sublist hplace t.entries
  have hperm : (t.children p).Perm (t.entries.filterMap (entryIn p)) := List.mergeSort_perm _ _
  constructor
  · intro entry hentry
    have hmem := hsub.subset (List.mem_map_of_mem (hperm.mem_iff.mp hentry))
    exact h.names _ hmem entry.1 (by simp)
  · have hnodup : ((t.entries.filterMap (entryIn p)).map (·.1)).Nodup := by
      have hplaces := hsub.nodup h.places
      refine List.Nodup.of_map (fun n => p ++ [n]) ?_
      rwa [List.map_map]
    exact Named.increasing_mergeSort Prod.fst hnodup

theorem Sound.increasing_list (h : t.Sound) {path : String} {entries : List (String × Entry)}
    (hlist : t.list path = .ok entries) :
    (∀ entry ∈ entries, Path.Plain entry.1) ∧
    entries.Pairwise fun a b => (Utf8.encode a.1).toList < (Utf8.encode b.1).toList := by
  unfold FileTree.list at hlist
  split at hlist
  · cases hlist
  · split at hlist
    · cases hlist
    · cases hlist
      exact h.increasing_children _
    · cases hlist

end FileTree
end GuestHost
