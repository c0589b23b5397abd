import GuestHost.FileTree
import GuestHost.Proofs.Path.Cleaning

/-! # What file operations leave alone

* **One entry.**  Putting an entry at a place changes that place and no other (`find?_put`).
* **Places of paths.**  There are no links, so a path that leads somewhere leads to the place that it
  names (`FileTree.placeOf`, `locate_eq_placeOf`), and a name below a directory leads to a child of
  that place (`placeOf_join`).
* **Directories.**  Making directories adds directories where nothing was (`Furnished`,
  `furnished_makeDirectories`).
* **Files.**  Writing a file changes the place of the file at most (`writeFile_cases`). -/

namespace GuestHost
namespace FileTree

/-! ### One entry -/

theorem lookup_replace (l : List (Place × Entry)) (p : Place) (e : Entry) (q : Place) :
    (l.map fun (r, f) => if r = p then (r, e) else (r, f)).lookup q
      = if q = p then (l.lookup q).map fun _ => e else l.lookup q := by
  induction l with
  | nil => simp
  | cons entry l ih =>
      obtain ⟨r, f⟩ := entry
      by_cases hr : r = p <;> by_cases hq : q = r <;> grind

theorem lookup_eq_none_of_not_any {l : List (Place × Entry)} {p : Place}
    (h : l.any (·.1 = p) = false) : l.lookup p = none := by
  rw [List.lookup_eq_none_iff]
  intro entry hentry
  have hne := List.any_eq_false.mp h entry hentry
  rw [decide_eq_true_eq] at hne
  simpa using Ne.symm hne

theorem find?_put {p : Place} (hp : p ≠ []) (t : FileTree) (e : Entry) (q : Place) :
    (t.put p e).find? q = if q = p then some e else t.find? q := by
  unfold put find?
  by_cases hq : q = []
  · subst hq
    simp [Ne.symm hp]
  rw [if_neg hq, if_neg hq]
  cases hany : t.entries.any (·.1 = p) with
  | true =>
      simp only [if_true, lookup_replace]
      split_ifs with hqp
      · subst hqp
        cases hfound : t.entries.lookup q with
        | some f => rfl
        | none =>
            -- The place is among the entries, so it is found.
            obtain ⟨entry, hentry, hplace⟩ := List.any_eq_true.mp hany
            have hne := List.lookup_eq_none_iff.mp hfound entry hentry
            simp_all
      · rfl
  | false =>
      simp only [Bool.false_eq_true, if_false, List.lookup_append]
      split_ifs with hqp
      · subst hqp
        simp [lookup_eq_none_of_not_any hany]
      · rw [List.lookup_cons, beq_eq_false_iff_ne.mpr hqp]
        simp

@[simp] theorem home_put (t : FileTree) (p : Place) (e : Entry) : (t.put p e).home = t.home := by
  unfold put
  split_ifs <;> rfl

/-- The bytes of the file at a place. -/
def fileAt? (t : FileTree) (p : Place) : Option Bytes :=
  match t.find? p with
  | some (.file c) => some c.data
  | _ => none

theorem ne_nil_of_find? {t : FileTree} {p : Place} (h : t.find? p ≠ some .directory) : p ≠ [] := by
  rintro rfl
  exact h rfl

/-! ### Places of paths -/

/-- The place that a path names, if nothing is looked up. -/
def placeOf (t : FileTree) (path : String) : Place :=
  Path.walk (if Path.isRooted path then [] else t.home) (Path.names path)

theorem follow_eq_walk {t : FileTree} {here place : Place} {ns : List String}
    (h : t.follow here ns = .ok place) : place = Path.walk here ns := by
  induction ns generalizing here with
  | nil =>
      cases h
      rfl
  | cons n ns ih =>
      rw [follow] at h
      rw [Path.walk_cons, Path.step]
      split at h
      · cases h
      · split_ifs at h ⊢ with hstay hup hlong
        · exact ih h
        · exact ih h
        · exact ih h
      · cases h

theorem locate_eq_placeOf {t : FileTree} {path : String} {p : Place}
    (h : t.locate path = .ok p) : p = t.placeOf path := by
  unfold locate followFrom at h
  split_ifs at h with _ _ _ hrooted
  · rw [placeOf, if_pos hrooted]
    exact follow_eq_walk h
  · rw [placeOf, if_neg hrooted]
    exact follow_eq_walk h

theorem placeOf_congr {t t' : FileTree} (h : t'.home = t.home) (path : String) :
    t'.placeOf path = t.placeOf path := by
  rw [placeOf, placeOf, h]

/-- A path names the place to which its components lead. -/
theorem placeOf_eq_walk_components (t : FileTree) (p : String) :
    t.placeOf p = Path.walk (if Path.isRooted p then [] else t.home) (Path.components p) :=
  (Path.walk_resolve (fun h => if_pos h) (Path.names p)).symm

theorem placeOf_clean (t : FileTree) (p : String) : t.placeOf (Path.clean p) = t.placeOf p := by
  rw [placeOf_eq_walk_components, placeOf_eq_walk_components, Path.isRooted_clean,
    Path.components_clean]

theorem placeOf_join (t : FileTree) {dir n : String} (hdir : dir ≠ "") (hn : Path.Proper n)
    (hslash : '/' ∉ n.toList) : t.placeOf (Path.join dir n) = t.placeOf dir ++ [n] := by
  have hrooted : Path.isRooted (dir ++ "/" ++ n) = Path.isRooted dir := by
    rw [String.append_assoc]
    exact Path.isRooted_append hdir _
  have hnames : Path.names (dir ++ "/" ++ n) = Path.names dir ++ [n] := by
    rw [Path.names_append_slash, Path.names_of_not_mem hslash]
  rw [Path.join, if_neg hdir, if_neg hn.not_empty, placeOf_clean, placeOf, hrooted, hnames,
    Path.walk_append, Path.walk_of_proper (by simpa using hn)]
  rfl

/-- A local path leads straight down from the directory that it is joined to. -/
theorem placeOf_join_of_isLocal (t : FileTree) {dir file : String} (hfile : Path.isLocal file = true) :
    t.placeOf (Path.join dir file) = t.placeOf dir ++ Path.components file := by
  obtain ⟨hcomponents, hrooted⟩ := Path.components_join dir hfile
  rw [placeOf_eq_walk_components, placeOf_eq_walk_components, hcomponents, hrooted, Path.walk_append,
    Path.walk_of_proper (Path.proper_of_isLocal hfile)]

/-! ### Directories -/

/-- All is as it was, but for directories where nothing was. -/
structure Furnished (t t' : FileTree) : Prop where
  home : t'.home = t.home
  kept : ∀ p, t'.find? p = t.find? p ∨ (t.find? p = none ∧ t'.find? p = some .directory)

theorem furnished_refl (t : FileTree) : Furnished t t := ⟨rfl, fun _ => .inl rfl⟩

theorem Furnished.trans {t t' t'' : FileTree} (h : Furnished t t') (h' : Furnished t' t'') :
    Furnished t t'' := by
  refine ⟨h'.home.trans h.home, fun p => ?_⟩
  rcases h.kept p with hkept | ⟨hnone, hmade⟩ <;> rcases h'.kept p with hkept' | ⟨hnone', hmade'⟩
  · exact .inl (hkept'.trans hkept)
  · exact .inr ⟨hkept ▸ hnone', hmade'⟩
  · exact .inr ⟨hnone, hkept'.trans hmade⟩
  · rw [hmade] at hnone'
    cases hnone'

theorem Furnished.fileAt? {t t' : FileTree} (h : Furnished t t') (p : Place) :
    t'.fileAt? p = t.fileAt? p := by
  rcases h.kept p with hkept | ⟨hnone, hmade⟩
  · rw [FileTree.fileAt?, hkept, FileTree.fileAt?]
  · rw [FileTree.fileAt?, hmade, FileTree.fileAt?, hnone]

theorem furnished_put {t : FileTree} {p : Place} (h : (t.find? p).isSome = false) :
    Furnished t (t.put p .directory) := by
  have hnone : t.find? p = none := by simpa using h
  refine ⟨home_put t p _, fun q => ?_⟩
  rw [find?_put (ne_nil_of_find? (t := t) (by simp [hnone]))]
  split_ifs with hq
  · exact .inr ⟨hq ▸ hnone, rfl⟩
  · exact .inl rfl

theorem furnished_makeDirectory {t t' : FileTree} {path : String}
    (h : t.makeDirectory path = .ok t') : Furnished t t' := by
  unfold makeDirectory at h
  split at h
  · split at h
    · cases h
    · split_ifs at h with hfound
      cases h
      exact furnished_put (by simpa using hfound)
  · split_ifs at h with hfound
    cases h
    exact furnished_put (by simpa using hfound)

theorem furnished_makeDirectoriesWithin (t : FileTree) (fuel : Nat) (path : String) :
    Furnished t (t.makeDirectoriesWithin fuel path).1 := by
  induction fuel generalizing path with
  | zero => exact furnished_refl t
  | succ fuel ih =>
      unfold makeDirectoriesWithin
      split
      · exact furnished_refl t
      · exact furnished_refl t
      · have habove : Furnished t (if parentOf path = "" then (t, (.ok () : Except Fault Unit))
            else t.makeDirectoriesWithin fuel (parentOf path)).1 := by
          split_ifs
          · exact furnished_refl t
          · exact ih (parentOf path)
        simp only
        generalize (if parentOf path = "" then (t, (.ok () : Except Fault Unit))
            else t.makeDirectoriesWithin fuel (parentOf path)) = above at habove
        obtain ⟨t', f | u⟩ := above
        · exact habove
        · simp only
          cases hmade : t'.makeDirectory path with
          | ok t'' => exact habove.trans (furnished_makeDirectory hmade)
          | error e =>
              simp only
              split <;> exact habove

/-- **Making directories** adds directories and changes nothing else, however it ends. -/
theorem furnished_makeDirectories (t : FileTree) (path : String) :
    Furnished t (t.makeDirectories path).1 :=
  t.furnished_makeDirectoriesWithin _ path

/-! ### Files -/

theorem locate_of_locateForWriting {t : FileTree} {path : String} {p : Place} {e : Option Entry}
    (h : t.locateForWriting path = .ok (p, e)) :
    t.locate path = .ok p ∧ t.find? p = e ∧ e ≠ some .directory := by
  unfold locateForWriting at h
  split at h
  · split at h <;> cases h
  · split at h
    · cases h
    · rename_i q hq
      split at h
      · cases h
      · rename_i hdirectory
        cases h
        exact ⟨hq, rfl, hdirectory⟩

/-- Creating a file fails, or opens a device that is full, or puts an empty file at its place. -/
theorem create_cases (t : FileTree) (path : String) :
    (∃ why, t.create path = .error (.system "open" path why)) ∨
    (t.find? (t.placeOf path) = some .fullDevice ∧ t.create path = .ok (t, t.placeOf path)) ∨
    (t.find? (t.placeOf path) ≠ some .directory ∧
      t.create path = .ok (t.put (t.placeOf path) (.file (.bytes #[])), t.placeOf path)) := by
  unfold create
  split
  · exact .inl ⟨_, rfl⟩
  · rename_i p h
    obtain ⟨hp, hfind, -⟩ := locate_of_locateForWriting h
    obtain rfl := locate_eq_placeOf hp
    exact .inr (.inl ⟨hfind, rfl⟩)
  · rename_i p e _ h
    obtain ⟨hp, hfind, hdirectory⟩ := locate_of_locateForWriting h
    obtain rfl := locate_eq_placeOf hp
    exact .inr (.inr ⟨hfind ▸ hdirectory, rfl⟩)

/-- **Writing a file** fails and changes nothing, or finds a device that is full and changes nothing,
or puts the content at the place of the path. -/
theorem writeFile_cases (t : FileTree) (path : String) (content : Bytes) :
    (∃ operation why, t.writeFile path content = (t, .error (.system operation path why))) ∨
    (t.find? (t.placeOf path) = some .fullDevice ∧ t.writeFile path content = (t, .ok ())) ∨
    (∃ t', t.writeFile path content = (t', .ok ()) ∧ t'.home = t.home ∧
      t.find? (t.placeOf path) ≠ some .directory ∧
      ∀ q, t'.find? q
        = if q = t.placeOf path then some (.file (.bytes content)) else t.find? q) := by
  unfold writeFile
  obtain ⟨why, h⟩ | ⟨hfull, h⟩ | ⟨hdirectory, h⟩ := t.create_cases path
  · exact .inl ⟨"open", why, by rw [h]⟩
  · simp only [h, hfull]
    split_ifs
    · exact .inr (.inl ⟨trivial, rfl⟩)
    · exact .inl ⟨_, _, rfl⟩
  · have hne : t.placeOf path ≠ [] := ne_nil_of_find? hdirectory
    refine .inr (.inr ⟨(t.put (t.placeOf path) (.file (.bytes #[]))).put (t.placeOf path)
      (.file (.bytes content)), ?_, by simp, hdirectory, fun q => ?_⟩)
    · simp [h, find?_put hne]
    · rw [find?_put hne, find?_put hne]
      split_ifs <;> rfl

end FileTree
end GuestHost
