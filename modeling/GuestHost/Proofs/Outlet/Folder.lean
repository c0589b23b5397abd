import GuestHost.Outlet
import GuestHost.Proofs.Files.Frame

/-! # Artifacts stay in their folder

A guest names its artifacts as it likes.  The file name of an artifact is what is left of the name
at the end of a walk from the root (`fileName?_eq_getLast?`), and so it is a name that leads to a
child of whatever directory it is joined to (`Artifact.Kept`).

* **File names** are those that are kept as they are (`fileName?_eq_self_iff`).
* **Deliveries** (`Recipient.writeInto_cases`).  A folder refuses a name of which nothing is left, and
  then changes nothing.  Otherwise it makes directories where nothing was and writes one file.

`artifact_stays_in_folder` puts this together. -/

namespace GuestHost

namespace Artifact

/-! ### File names -/

/-- What is left of a name at the end of a walk from the root, backslashes counting as slashes. -/
def remains (name : String) : List String := Path.walk [] (Path.names (slashed name))

theorem components_eq_remains (name : String) : components name = remains name := by
  rw [components, Path.components_eq_walk (Path.isRooted_slash_append _), Path.names_slash_append]
  rfl

theorem not_backslash_mem_slashed (name : String) : '\\' ∉ (slashed name).toList := by
  rw [slashed, String.toList_ofList, List.mem_map]
  rintro ⟨c, -, hc⟩
  split_ifs at hc with hback
  · cases hc
  · exact hback hc

theorem slashed_eq_self {name : String} (h : '\\' ∉ name.toList) : slashed name = name := by
  have hmap : name.toList.map (fun c => if c = '\\' then '/' else c) = name.toList := by
    conv => rhs; rw [← List.map_id name.toList]
    apply List.map_congr_left
    intro c hc
    refine if_neg ?_
    rintro rfl
    exact h hc
  rw [slashed, hmap, String.ofList_toList]

/-- A name under which artifacts are kept: it leads down by one, and has no slashes of any kind. -/
structure Kept (base : String) : Prop where
  proper : Path.Proper base
  slash : '/' ∉ base.toList
  backslash : '\\' ∉ base.toList

theorem kept_of_mem_remains {name base : String} (h : base ∈ remains name) : Kept base := by
  have hname : base ∈ Path.names (slashed name) :=
    (Path.mem_of_mem_walk h).resolve_left List.not_mem_nil
  refine ⟨Path.proper_of_mem_walk (by simp) base h, Path.not_slash_of_mem_names hname, ?_⟩
  intro hback
  exact not_backslash_mem_slashed name (Path.mem_of_mem_names hname hback)

/-- **The file name** of an artifact is the last of what is left of its name. -/
theorem fileName?_eq_getLast? (name : String) : fileName? name = (remains name).getLast? := by
  have hbase := Path.base_clean (Path.isRooted_slash_append (slashed name))
  rw [fileName?, hbase, ← components, components_eq_remains]
  cases hlast : (remains name).getLast? with
  | none => rfl
  | some base =>
      obtain ⟨⟨hempty, hhere, -⟩, hslash, -⟩ := kept_of_mem_remains (List.mem_of_getLast? hlast)
      have hroot : base ≠ "/" := by
        rintro rfl
        exact hslash (by decide)
      simp [hempty, hhere, hroot]

theorem kept_of_fileName? {name base : String} (h : fileName? name = some base) : Kept base := by
  rw [fileName?_eq_getLast?] at h
  exact kept_of_mem_remains (List.mem_of_getLast? h)

theorem fileName?_eq_self_iff {base : String} : fileName? base = some base ↔ Kept base := by
  refine ⟨kept_of_fileName?, fun h => ?_⟩
  have hremains : remains base = [base] := by
    rw [remains, slashed_eq_self h.backslash, Path.names_of_not_mem h.slash,
      Path.walk_of_proper (by simpa using h.proper)]
    rfl
  rw [fileName?_eq_getLast?, hremains]
  rfl

end Artifact

/-! ### Deliveries -/

namespace FileTree

theorem makeDirectories_empty (t : FileTree) : ∃ f, t.makeDirectories "" = (t, .error f) := by
  have hlocate : t.locate "" = .error .noEntry := rfl
  have hparent : parentOf "" = "" := rfl
  have hmake : t.makeDirectory "" = .error .noEntry := rfl
  simp [makeDirectories, makeDirectoriesWithin, stat, hmake, hlocate, hparent]

end FileTree

namespace Recipient

/-- **What a folder does with an artifact**: it refuses the name; or something about the files is in
the way; or the file is a device that is full; or the content is written to the file. -/
theorem writeInto_cases (dir : String) (t : FileTree) (a : Artifact) :
    (Artifact.fileName? a.name = none ∧ writeInto dir t a = (t, some (.artifactName a.name))) ∨
    ∃ base t₁, Artifact.fileName? a.name = some base ∧ t.Furnished t₁ ∧
      ((∃ f, writeInto dir t a = (t₁, some f) ∧ ∀ n, f ≠ .artifactName n) ∨
        (t₁.find? (t.placeOf dir ++ [base]) = some .fullDevice ∧ writeInto dir t a = (t₁, none)) ∨
        ∃ t', writeInto dir t a = (t', none) ∧ t'.home = t.home ∧
          t₁.find? (t.placeOf dir ++ [base]) ≠ some .directory ∧
          ∀ p, t'.find? p = if p = t.placeOf dir ++ [base] then some (.file (.bytes a.content))
            else t₁.find? p) := by
  unfold writeInto
  cases hbase : Artifact.fileName? a.name with
  | none => exact .inl ⟨rfl, rfl⟩
  | some base =>
      obtain ⟨hproper, hslash, -⟩ := Artifact.kept_of_fileName? hbase
      have hfurnished := t.furnished_makeDirectories dir
      rcases hmade : t.makeDirectories dir with ⟨t₁, f | u⟩
      · rw [hmade] at hfurnished
        exact .inr ⟨base, t₁, rfl, hfurnished, .inl ⟨_, rfl, by simp⟩⟩
      · rw [hmade] at hfurnished
        have hdir : dir ≠ "" := by
          rintro rfl
          obtain ⟨f, hf⟩ := t.makeDirectories_empty
          rw [hf] at hmade
          cases hmade
        have hplace : t₁.placeOf (Path.join dir base) = t.placeOf dir ++ [base] := by
          rw [FileTree.placeOf_join t₁ hdir hproper hslash,
            FileTree.placeOf_congr hfurnished.home]
        refine .inr ⟨base, t₁, rfl, hfurnished, ?_⟩
        obtain ⟨operation, why, h⟩ | ⟨hfull, h⟩ | ⟨t', h, hhome, hdirectory, hfind⟩ :=
          t₁.writeFile_cases (Path.join dir base) a.content
        · simp only [h]
          exact .inl ⟨_, rfl, by simp⟩
        · rw [hplace] at hfull
          simp [h, hfull]
        · simp only [h]
          rw [hplace] at hdirectory hfind
          exact .inr (.inr ⟨t', rfl, hhome.trans hfurnished.home, hdirectory, hfind⟩)

end Recipient

/-- **Artifacts stay in their folder.**  Whatever the name, it has no file name just when nothing is
left of it at the end of a walk from the root.  Otherwise the file name is the last of what is left;
it is not empty, has no slashes of any kind, is neither `.` nor `..`, and is its own file name.

Whatever the files, a folder that is handed an artifact adds directories and changes at most the
child of that name; that child holds the content afterwards, unless it is a device or a failure is
told.  When the name is refused nothing changes at all. -/
theorem artifact_stays_in_folder (a : Artifact) (dir : String) (t : FileTree) :
    let place := t.placeOf dir
    let t' := (Recipient.writeInto dir t a).1
    let fault := (Recipient.writeInto dir t a).2
    (Artifact.fileName? a.name = none ↔ Artifact.remains a.name = []) ∧
    (∀ base, Artifact.fileName? a.name = some base →
      (Artifact.remains a.name).getLast? = some base ∧ base ≠ "" ∧ '/' ∉ base.toList ∧
      '\\' ∉ base.toList ∧ base ≠ "." ∧ base ≠ ".." ∧ Artifact.fileName? base = some base) ∧
    (∀ q, t.locate dir = .ok q ∨ t'.locate dir = .ok q → q = place) ∧
    (∀ p, t'.find? p ≠ t.find? p →
      (t.find? p = none ∧ t'.find? p = some .directory) ∨
      ∃ base, Artifact.fileName? a.name = some base ∧ p = place ++ [base]) ∧
    (∀ base, Artifact.fileName? a.name = some base → fault = none →
      t'.find? (place ++ [base]) = some (.file (.bytes a.content)) ∨
      t'.find? (place ++ [base]) = some .fullDevice) ∧
    (Artifact.fileName? a.name = none → t' = t ∧ fault = some (.artifactName a.name)) := by
  intro place t' fault
  have hnone : Artifact.fileName? a.name = none ↔ Artifact.remains a.name = [] := by
    rw [Artifact.fileName?_eq_getLast?, List.getLast?_eq_none_iff]
  have hname : ∀ base, Artifact.fileName? a.name = some base →
      (Artifact.remains a.name).getLast? = some base ∧ base ≠ "" ∧ '/' ∉ base.toList ∧
      '\\' ∉ base.toList ∧ base ≠ "." ∧ base ≠ ".." ∧ Artifact.fileName? base = some base := by
    intro base hbase
    have hkept := Artifact.kept_of_fileName? hbase
    rw [Artifact.fileName?_eq_getLast?] at hbase
    exact ⟨hbase, hkept.proper.not_empty, hkept.slash, hkept.backslash, hkept.proper.not_here,
      hkept.proper.not_up, Artifact.fileName?_eq_self_iff.mpr hkept⟩
  refine ⟨hnone, hname, ?_⟩
  obtain ⟨hrefused, h⟩ | ⟨base, t₁, hbase, hfurnished, hcases⟩ := Recipient.writeInto_cases dir t a
  · simp only [t', fault, h]
    refine ⟨?_, ?_, ?_, ?_⟩
    · exact fun q hq => FileTree.locate_eq_placeOf (hq.elim id id)
    · exact fun p hp => absurd rfl hp
    · intro base hbase
      rw [hrefused] at hbase
      cases hbase
    · exact fun _ => ⟨trivial, trivial⟩
  · -- All that happens happens on top of the directories that were made.
    have hhome : t'.home = t.home := by
      obtain ⟨f, h, -⟩ | ⟨-, h⟩ | ⟨t'', h, hhome, -, -⟩ := hcases
      · simp only [t', h, hfurnished.home]
      · simp only [t', h, hfurnished.home]
      · simp only [t', h, hhome]
    have hchange : ∀ p, p ≠ place ++ [base] → t'.find? p = t₁.find? p := by
      intro p hp
      obtain ⟨f, h, -⟩ | ⟨-, h⟩ | ⟨t'', h, -, -, hfind⟩ := hcases
      · simp only [t', h]
      · simp only [t', h]
      · simp only [t', h, hfind]
        exact if_neg hp
    have hwritten : fault = none → t'.find? (place ++ [base]) = some (.file (.bytes a.content)) ∨
        t'.find? (place ++ [base]) = some .fullDevice := by
      intro hfault
      obtain ⟨f, h, -⟩ | ⟨hfull, h⟩ | ⟨t'', h, -, -, hfind⟩ := hcases
      · simp only [fault, h] at hfault
        cases hfault
      · simp only [t', h]
        exact .inr hfull
      · simp only [t', h, hfind]
        exact .inl (if_pos rfl)
    refine ⟨?_, ?_, ?_, ?_⟩
    · rintro q (hq | hq)
      · exact FileTree.locate_eq_placeOf hq
      · exact (FileTree.locate_eq_placeOf hq).trans (FileTree.placeOf_congr hhome dir)
    · intro p hp
      by_cases hchild : p = place ++ [base]
      · exact .inr ⟨base, hbase, hchild⟩
      · rw [hchange p hchild] at hp ⊢
        exact .inl ((hfurnished.kept p).resolve_left hp)
    · intro base' hbase'
      obtain rfl := Option.some.inj (hbase.symm.trans hbase')
      exact hwritten
    · intro hrefused
      rw [hbase] at hrefused
      cases hrefused

end GuestHost
