import GuestHost.Proofs.Files.Spelling
import GuestHost.Proofs.Guest.Confinement

/-! # The module that was checked and the module that is read

The manifest of a directory is taken only if its module file is there.  That is looked up at the
cleaned path of both (`Manifest.modulePath`).  The module itself is read from the directory, by the name
that the manifest gives, as it is written.

* **Never another file.**  Whatever is read is the file that was looked up (`Guest.eq_of_read_source`).
* **Spelling.**  It is read just when the name of the module file is in canonical form, the directory is
  found as it is written, and the path of both is not too long (`Manifest.Readable`).  Then all that can
  still be wrong is the module: it does not compile, or it imports what it may not
  (`Guest.judged`).
* A name such as `./g.wasm` passes the check and is never read (`Guest.dotted_module_file_refused`). -/

namespace GuestHost

namespace Manifest

/-- The module file can be read from the directory as both are written. -/
structure Readable (t : FileTree) (m : Manifest) : Prop where
  canonical : Path.isCanonical m.file = true
  directory : t.stat m.directory = .ok .directory
  short : (Source.below m.directory m.file).utf8ByteSize ≤ FileTree.maxPath

theorem directory_of_load {t : FileTree} {directory : String} {m : Manifest}
    (h : load t directory = .ok m) : m.directory = directory ∧ m.file ≠ "" := by
  obtain ⟨-, d, -, -, hchecked⟩ := checked_of_load h
  exact ⟨hchecked.directory, (Path.not_rooted_of_isLocal hchecked.inside).1⟩

end Manifest

theorem FileTree.readFile_eq_ok_iff {t : FileTree} {path : String} {c : Content} :
    t.readFile path = .ok c ↔
      t.stat path = .ok (.file c) ∨ t.stat path = .ok .fullDevice ∧ c = .bytes #[] := by
  unfold readFile
  split
  · rename_i e h
    simp [h]
  · rename_i h
    simp [h]
  · rename_i c' h
    simp [h]
  · rename_i h
    simp [h, eq_comm]

theorem Source.readInside_eq_ok_iff {t : FileTree} {dir file : String} {c : Content} :
    readInside t dir file = .ok c ↔ dir ≠ "" ∧ Path.isCanonical file = true ∧
      '\x00' ∉ file.toList ∧ t.readFile (below dir file) = .ok c := by
  unfold readInside
  split_ifs with hdir hinvalid
  · simp [hdir]
  · simp only [Bool.or_eq_true, Bool.not_eq_true', List.contains_eq_mem, decide_eq_true_eq]
      at hinvalid
    rcases hinvalid with h | h <;> simp [h]
  · simp only [Bool.or_eq_true, Bool.not_eq_true', List.contains_eq_mem, decide_eq_true_eq, not_or,
      Bool.not_eq_false] at hinvalid
    cases hread : t.readFile (below dir file) with
    | error f => simp
    | ok c' => simp [hdir, hinvalid]

namespace Guest

/-- What comes of a guest when its module file has been read: the module is compiled and its imports
are checked. -/
def judged (config : EngineConfig) (m : Manifest) (c : Content) : Except Fault Guest :=
  match Engine.compile config c with
  | none => .error (.guestRejected m.name (.compilation m.modulePath))
  | some module =>
    match importsFault? m module.imports with
    | some f => .error (.guestRejected m.name f)
    | none => .ok ⟨m, ⟨m.modulePath, module⟩⟩

variable {t : FileTree} {m : Manifest} {c : Content}

/-- **Never another file.** -/
theorem eq_of_read_source (hfile : m.file ≠ "") (hc : t.stat m.modulePath = .ok (.file c))
    {c' : Content} (h : (source m).read t = .ok c') : c' = c := by
  obtain ⟨hdir, -, -, hread⟩ := Source.readInside_eq_ok_iff.mp h
  have hplace := FileTree.find?_of_stat hc
  rw [Manifest.modulePath, FileTree.placeOf_join_eq_placeOf_below t hdir hfile] at hplace
  rcases FileTree.readFile_eq_ok_iff.mp hread with hstat | ⟨hstat, -⟩
  · have hsame := (FileTree.find?_of_stat hstat).symm.trans hplace
    cases hsame
    rfl
  · have hsame := (FileTree.find?_of_stat hstat).symm.trans hplace
    cases hsame

/-- **Spelling** decides whether the module file is read. -/
theorem read_source_iff (hfile : m.file ≠ "") (hc : t.stat m.modulePath = .ok (.file c)) :
    (source m).read t = .ok c ↔ m.Readable t := by
  constructor
  · intro h
    obtain ⟨hdir, hcanonical, -, hread⟩ := Source.readInside_eq_ok_iff.mp h
    have hbelow : t.stat (Source.below m.directory m.file) = .ok (.file c) := by
      rcases FileTree.readFile_eq_ok_iff.mp hread with hstat | ⟨hstat, -⟩
      · exact hstat
      · -- A device is not at the place of the file.
        have hplace := FileTree.find?_of_stat hc
        rw [Manifest.modulePath, FileTree.placeOf_join_eq_placeOf_below t hdir hfile,
          FileTree.find?_of_stat hstat] at hplace
        cases hplace
    obtain ⟨hdirectory, hshort⟩ := (FileTree.stat_below_iff hcanonical hdir hc).mp hbelow
    exact ⟨hcanonical, hdirectory, hshort⟩
  · rintro ⟨hcanonical, hdirectory, hshort⟩
    have hdir : m.directory ≠ "" := by
      intro hempty
      rw [hempty] at hdirectory
      cases hdirectory
    have hbelow := (FileTree.stat_below_iff hcanonical hdir hc).mpr ⟨hdirectory, hshort⟩
    obtain ⟨q, hq, -⟩ := FileTree.stat_eq_ok_iff.mp hbelow
    have hnul := (FileTree.locate_eq_ok_iff.mp hq).1
    rw [Path.nul_mem_below_iff, not_or] at hnul
    exact Source.readInside_eq_ok_iff.mpr
      ⟨hdir, hcanonical, hnul.2, FileTree.readFile_eq_ok_iff.mpr (.inl hbelow)⟩

theorem name_source (hc : t.stat m.modulePath = .ok (.file c)) : (source m).name = m.modulePath := by
  have hne : m.modulePath ≠ "" := by
    intro hempty
    rw [hempty] at hc
    cases hc
  simp [source, Source.name, hne]

variable {e : Engine} {dir : String}

/-- What comes of a module that is not kept yet, by what is read. -/
theorem loadModule_of_miss {s : Source} (hname : s.name = m.modulePath) (hopen : e.closed = false)
    (hmiss : e.module? m.modulePath = none) :
    (loadModule e t m s).2.1 =
      match s.read t with
      | .error f =>
        .error (.guestRejected m.name (.within ("failed to read module " ++ m.modulePath) f))
      | .ok c => judged e.config m c := by
  simp only [loadModule, Engine.load, hname, hopen, hmiss, Bool.false_eq_true, if_false]
  cases s.read t with
  | error f => rfl
  | ok c =>
      simp only [judged]
      cases Engine.compile e.config c with
      | none => rfl
      | some module =>
          simp only
          cases importsFault? m module.imports <;> rfl

/-- What comes of a guest directory whose module is not kept yet, by what is read. -/
theorem loadDirectory_of_read (hm : Manifest.load t dir = .ok m)
    (hname : (source m).name = m.modulePath) (hopen : e.closed = false)
    (hmiss : e.module? m.modulePath = none) :
    (loadDirectory e t dir).2.1 =
      match (source m).read t with
      | .error f =>
        .error (.guestRejected m.name (.within ("failed to read module " ++ m.modulePath) f))
      | .ok c => judged e.config m c := by
  rw [← loadModule_of_miss hname hopen hmiss]
  simp only [loadDirectory, hm]

/-- **The file that was checked is the file that is read**, if any is.  A guest directory whose
manifest is taken and whose module file is there, and whose module is not kept yet: no other file is
read in its place.  It is read just when directory and file name are spelled so that the directory and
the file behind it are found as they are written.  Then the guest is taken unless its module does not
compile or imports what it may not; otherwise it is refused because the module cannot be read. -/
theorem module_read_iff_readable (hm : Manifest.load t dir = .ok m)
    (hc : t.stat m.modulePath = .ok (.file c)) (hopen : e.closed = false)
    (hmiss : e.module? m.modulePath = none) :
    (∀ c', (source m).read t = .ok c' → c' = c) ∧
    ((source m).read t = .ok c ↔ m.Readable t) ∧
    (m.Readable t → (loadDirectory e t dir).2.1 = judged e.config m c) ∧
    (¬ m.Readable t → ∃ f, (loadDirectory e t dir).2.1 =
      .error (.guestRejected m.name (.within ("failed to read module " ++ m.modulePath) f))) := by
  obtain ⟨-, hfile⟩ := Manifest.directory_of_load hm
  have hunique : ∀ c', (source m).read t = .ok c' → c' = c := fun _ => eq_of_read_source hfile hc
  have hiff := read_source_iff hfile hc
  have hload := loadDirectory_of_read hm (name_source hc) hopen hmiss
  refine ⟨hunique, hiff, ?_, ?_⟩
  · intro hreadable
    rw [hload, hiff.mpr hreadable]
  · intro hunreadable
    cases hread : (source m).read t with
    | error f => exact ⟨f, by rw [hload, hread]⟩
    | ok c' =>
        obtain rfl := hunique c' hread
        exact absurd (hiff.mp hread) hunreadable

/-- A guest directory; the manifest names the module file as it is written here. -/
def guestNaming (file : String) : FileTree :=
  let manifest := "name: g\nversion: '1'\nwasm: \x7bfile: " ++ file ++ "\x7d\ncapabilities: [sound]"
  { entries := [(["g"], .directory), (["g", "manifest.yaml"], .file (.bytes manifest.toUTF8.data)),
      (["g", "g.wasm"], .file (.module {}))] }

theorem exists_manifest_guestNaming (file : String)
    (hread : (Manifest.load (guestNaming file) "/g").toOption.map (fun m => (m.directory, m.file))
      = some ("/g", file))
    (hclean : Path.join "/g" file = "/g/g.wasm") :
    ∃ m, Manifest.load (guestNaming file) "/g" = .ok m ∧ m.directory = "/g" ∧ m.file = file ∧
      (guestNaming file).stat m.modulePath = .ok (.file (.module {})) := by
  obtain ⟨m, hm, hfields⟩ := exists_ok_of_toOption_map hread
  obtain ⟨hdirectory, hfile⟩ : m.directory = "/g" ∧ m.file = file := by simpa using hfields
  refine ⟨m, hm, hdirectory, hfile, ?_⟩
  rw [Manifest.modulePath, hdirectory, hfile, hclean]
  rfl

/-- The module file is named plainly: it is read, and the guest is taken. -/
theorem plain_module_file_taken :
    ∃ m, Manifest.load (guestNaming "g.wasm") "/g" = .ok m ∧
      (guestNaming "g.wasm").stat m.modulePath = .ok (.file (.module {})) ∧
      (source m).read (guestNaming "g.wasm") = .ok (.module {}) ∧
      (loadDirectory (Engine.new {} fun _ => "") (guestNaming "g.wasm") "/g").2.1
        = .ok ⟨m, ⟨m.modulePath, {}⟩⟩ := by
  obtain ⟨m, hm, hdirectory, hfile, hc⟩ :=
    exists_manifest_guestNaming "g.wasm" (by decide +kernel) (by decide +kernel)
  have hreadable : m.Readable (guestNaming "g.wasm") := by
    refine ⟨?_, ?_, ?_⟩
    · rw [hfile]
      decide +kernel
    · rw [hdirectory]
      rfl
    · rw [hdirectory, hfile]
      decide +kernel
  obtain ⟨-, hiff, htaken, -⟩ :=
    module_read_iff_readable (e := Engine.new {} fun _ => "") hm hc rfl rfl
  exact ⟨m, hm, hc, hiff.mpr hreadable, htaken hreadable⟩

/-- **A spelling that is checked and not read.**  The manifest is taken, the module file is there and
nothing is wrong with the module, and still the guest is refused because it cannot be read. -/
theorem dotted_module_file_refused :
    ∃ m, Manifest.load (guestNaming "./g.wasm") "/g" = .ok m ∧
      (guestNaming "./g.wasm").stat m.modulePath = .ok (.file (.module {})) ∧
      judged {} m (.module {}) = .ok ⟨m, ⟨m.modulePath, {}⟩⟩ ∧
      (loadDirectory (Engine.new {} fun _ => "") (guestNaming "./g.wasm") "/g").2.1
        = .error (.guestRejected m.name (.within ("failed to read module " ++ m.modulePath)
          (.system "readfile" "./g.wasm" .invalid))) := by
  obtain ⟨m, hm, hdirectory, hfile, hc⟩ :=
    exists_manifest_guestNaming "./g.wasm" (by decide +kernel) (by decide +kernel)
  have hinvalid : (source m).read (guestNaming "./g.wasm")
      = .error (.system "readfile" "./g.wasm" .invalid) := by
    rw [source, hdirectory, hfile]
    rfl
  refine ⟨m, hm, hc, rfl, ?_⟩
  rw [loadDirectory_of_read hm (name_source hc) rfl rfl, hinvalid]

end Guest
end GuestHost
