import GuestHost.Proofs.Guest.Discovery

/-! # A lone module file and its path

A guest that is given as a lone module file has a manifest made from the path of the file.  The path is
taken apart into directory and base name, and they are joined again to the path of the module.

* **The path** of the module is the path of the file, cleaned (`Manifest.modulePath_bare`).  It leads
  wherever the path of the file leads (`FileTree.locate_clean`).
* **The name** of the guest is the last component without its extension
  (`Manifest.getLast?_components_bare`).
* **The module** is kept under the cleaned path, so other spellings of the path share it, and other
  paths never do (`Guest.KeptByPath`). -/

namespace GuestHost

namespace Manifest

variable {path : String}

/-- **Directory and base name** of a module file come to its cleaned path. -/
theorem modulePath_bare (hext : Path.ext path = Guest.moduleExtension) :
    (bare path).modulePath = Path.clean path := by
  obtain ⟨front, name, hapart⟩ := Path.exists_apart path
  have hproper := hapart.proper (by rw [hext]; decide) (by rw [hext]; decide)
  simp only [modulePath, bare, hapart.join_eq hproper.not_empty]

/-- **The name** of the guest with the extension is the last component of the path. -/
theorem getLast?_components_bare (hext : Path.ext path = Guest.moduleExtension) :
    (Path.components path).getLast? = some ((bare path).name ++ Guest.moduleExtension) := by
  obtain ⟨front, name, hapart⟩ := Path.exists_apart path
  have hproper := hapart.proper (by rw [hext]; decide) (by rw [hext]; decide)
  have hname := hapart.stem_append_ext hproper.not_empty
  rw [hext] at hname
  simp only [bare, hapart.getLast?_components hproper, hname]

end Manifest

namespace Guest

/-- A file that a guest can be loaded from by itself. -/
structure LoneFile (t : FileTree) (path : String) : Prop where
  extension : Path.ext path = moduleExtension
  found : ∃ content, t.readFile path = .ok content

/-- What comes of a guest whose module is kept already: its imports are checked. -/
def admitted (m : Manifest) (c : Compiled) : Except Fault Guest :=
  match importsFault? m c.module.imports with
  | some f => .error (.guestRejected m.name f)
  | none => .ok ⟨m, c⟩

theorem load_of_loneFile {t : FileTree} {path : String} (h : LoneFile t path) (e : Engine) :
    load e t path = loadModule e t (.bare path) (.file (Path.clean path)) := by
  obtain ⟨hext, content, hread⟩ := h
  rw [← Manifest.modulePath_bare hext]
  rcases FileTree.readFile_eq_ok_iff.mp hread with hstat | ⟨hstat, -⟩ <;> simp [load, hstat, hext]

/-- The file that was found at a path is read at the cleaned path. -/
theorem read_clean {t : FileTree} {path : String} {content : Content}
    (h : t.readFile path = .ok content) :
    (Source.file (Path.clean path)).read t = .ok content := by
  rw [FileTree.readFile_eq_ok_iff] at h
  exact FileTree.readFile_eq_ok_iff.mpr (h.imp FileTree.stat_clean
    fun ⟨hstat, hempty⟩ => ⟨FileTree.stat_clean hstat, hempty⟩)

/-- A module that is kept is not read again. -/
theorem loadModule_of_kept {e : Engine} {t : FileTree} {m : Manifest} {s : Source} {c : Compiled}
    (hopen : e.closed = false) (hc : e.module? s.name = some c) :
    (loadModule e t m s).1 = e ∧ (loadModule e t m s).2.1 = admitted m c := by
  simp only [loadModule, Engine.load, hopen, hc, Bool.false_eq_true, if_false, admitted]
  cases importsFault? m c.module.imports <;> exact ⟨rfl, rfl⟩

/-- A guest that is taken keeps its module under the name of the source. -/
theorem kept_of_loadModule {e : Engine} {t : FileTree} {m : Manifest} {s : Source} {g : Guest}
    (h : (loadModule e t m s).2.1 = .ok g) :
    g.manifest = m ∧ (loadModule e t m s).1.module? s.name = some g.compiled := by
  rcases hload : e.load t s with ⟨e', f | c, log⟩
  · simp [loadModule, hload] at h
  · obtain ⟨hname, -, hc⟩ := Engine.module?_of_load hload
    obtain ⟨hengine, hguest⟩ := loadModule_of_load (m := m) hload
    obtain ⟨rfl, -⟩ := (hguest g).mp h
    rw [hengine]
    exact ⟨rfl, hname ▸ hc⟩

/-- How the module of a lone file is read, and how it is kept once the file was loaded. -/
structure KeptByPath (e : Engine) (t : FileTree) (path : String) : Prop where
  /-- As long as no module is kept for the cleaned path, the file that was found is read and
  compiled. -/
  read : e.closed = false → e.module? (Path.clean path) = none →
    ∀ content, t.readFile path = .ok content →
      (Source.file (Manifest.bare path).modulePath).read t = .ok content ∧
      (load e t path).2.1 = judged e.config (.bare path) content
  /-- The guest that is taken has the module that is kept for the cleaned path. -/
  kept : ∀ g, (load e t path).2.1 = .ok g →
    g.manifest = .bare path ∧ (load e t path).1.module? (Path.clean path) = some g.compiled
  /-- Whatever is done meanwhile and whatever files there are by then, another spelling of the path
  gets this module, and none is added. -/
  shared : e.closed = false → ∀ c, (load e t path).1.module? (Path.clean path) = some c →
    ∀ acts t' path', LoneFile t' path' → Path.clean path' = Path.clean path →
      (load ((load e t path).1.after acts) t' path').1 = (load e t path).1.after acts ∧
      (load ((load e t path).1.after acts) t' path').2.1 = admitted (.bare path') c
  /-- A path that is another one when cleaned has its own module, with or without this one. -/
  apart : ∀ t' path', LoneFile t' path' → Path.clean path' ≠ Path.clean path →
    (load e t path).1.module? (Path.clean path') = e.module? (Path.clean path') ∧
    (load (load e t path).1 t' path').2.1 = (load e t' path').2.1

theorem keptByPath_of_loneFile {t : FileTree} {path : String} (h : LoneFile t path) (e : Engine) :
    KeptByPath e t path := by
  have hload := load_of_loneFile h e
  have hpath := Manifest.modulePath_bare h.extension
  refine ⟨?_, ?_, ?_, ?_⟩
  · intro hopen hmiss content hread
    have hclean := read_clean hread
    rw [← hpath] at hload hmiss hclean
    have hname : (Source.file (Manifest.bare path).modulePath).name = (Manifest.bare path).modulePath :=
      rfl
    refine ⟨hclean, ?_⟩
    rw [hload, loadModule_of_miss hname hopen hmiss, hclean]
  · intro g hg
    rw [hload] at hg ⊢
    exact kept_of_loadModule hg
  · intro hopen c hc acts t' path' hlone hsame
    have hfirst := e.lasting_act (.load t (.file (Path.clean path)))
    have hlast := Engine.lasting_after (load e t path).1 acts
    rw [hload, loadModule_fst] at hc hlast ⊢
    rw [load_of_loneFile hlone, hsame]
    exact loadModule_of_kept ((hlast.closed.trans hfirst.closed).trans hopen) (hlast.module? hc)
  · intro t' path' hlone hother
    have hsame : Engine.Same (Path.clean path') e (load e t path).1 := by
      rw [hload]
      exact same_loadModule e t _ (Ne.symm hother)
    refine ⟨hsame.module, ?_⟩
    rw [load_of_loneFile hlone, load_of_loneFile hlone]
    exact loadModule_congr t' _ hsame

/-- **A lone module file is loaded from where it was found.**  Its module path is the path of the file,
cleaned, and leads wherever that leads.  The guest has the name of the last component without the
extension.  The module is read from the file that was found, and kept for the cleaned path: other
spellings share it, and what is another path when cleaned never does. -/
theorem lone_module_kept_by_clean_path {path : String} (hext : Path.ext path = moduleExtension) :
    (Manifest.bare path).modulePath = Path.clean path ∧
    (Path.components path).getLast? = some ((Manifest.bare path).name ++ moduleExtension) ∧
    (∀ t place, FileTree.locate t path = .ok place →
      t.locate (Manifest.bare path).modulePath = .ok place) ∧
    ∀ e t content, FileTree.readFile t path = .ok content → KeptByPath e t path := by
  have hpath := Manifest.modulePath_bare hext
  refine ⟨hpath, Manifest.getLast?_components_bare hext, ?_, ?_⟩
  · intro t place hplace
    rw [hpath]
    exact FileTree.locate_clean hplace
  · intro e t content hread
    exact keptByPath_of_loneFile ⟨hext, content, hread⟩ e

/-- A path with a step up, a dot and a doubled slash in it, and then a shorter spelling of it: one module
is compiled, and the inner dot of the name is kept. -/
theorem winding_path_shares_module :
    let t : FileTree :=
      { entries := [(["a"], .directory), (["b"], .directory),
          (["b", "my.demo.wasm"], .file (.module {}))] }
    let e := Engine.new {} fun _ => ""
    Path.ext "a/.././b//my.demo.wasm" = moduleExtension ∧
    ∃ e' g, (load e t "a/.././b//my.demo.wasm").1 = e' ∧
      (load e t "a/.././b//my.demo.wasm").2.1 = .ok g ∧ g.manifest.name = "my.demo" ∧
      e'.module? "b/my.demo.wasm" = some g.compiled ∧
      (load e' t "b/./my.demo.wasm").1 = e' ∧
      (load e' t "b/./my.demo.wasm").2.1 = .ok ⟨.bare "b/./my.demo.wasm", g.compiled⟩ := by
  intro t e
  have hext : Path.ext "a/.././b//my.demo.wasm" = moduleExtension := by decide +kernel
  have hclean : Path.clean "a/.././b//my.demo.wasm" = "b/my.demo.wasm" := by decide +kernel
  have hname : (Manifest.bare "a/.././b//my.demo.wasm").name = "my.demo" := by decide +kernel
  have hread : t.readFile "a/.././b//my.demo.wasm" = .ok (.module {}) := rfl
  have hother : LoneFile t "b/./my.demo.wasm" := ⟨by decide +kernel, _, rfl⟩
  have hspelling : Path.clean "b/./my.demo.wasm" = "b/my.demo.wasm" := by decide +kernel
  -- From here on the texts of the paths and the files do not matter any more.
  generalize "a/.././b//my.demo.wasm" = path at *
  generalize "b/./my.demo.wasm" = path' at *
  clear_value t
  have hkept := (lone_module_kept_by_clean_path hext).2.2.2 e t _ hread
  obtain ⟨g, hg, hempty⟩ : ∃ g, (load e t path).2.1 = .ok g ∧ g.compiled.module = {} :=
    ⟨_, (hkept.read rfl rfl _ hread).2.trans rfl, rfl⟩
  obtain ⟨hmanifest, hthere⟩ := hkept.kept g hg
  obtain ⟨hsame, hguest⟩ := hkept.shared rfl _ hthere [] t _ hother (hspelling.trans hclean.symm)
  have hadmitted : ∀ m, admitted m g.compiled = .ok ⟨m, g.compiled⟩ := by
    intro m
    rw [admitted, hempty]
    rfl
  refine ⟨hext, _, g, rfl, hg, hmanifest ▸ hname, ?_, hsame, hguest.trans (hadmitted _)⟩
  rwa [hclean] at hthere

end Guest
end GuestHost
