import GuestHost.Proofs.Guest.Confinement
import GuestHost.Proofs.Files.Frame

/-! # The path of a module stays below its directory

A manifest is checked by the name of the module file as it is written, and used by the path of
directory and name, joined and cleaned.

* **Inside.**  However the name is written, what it adds to the components of the directory leads
  straight down (`Path.components_join`).
* **Refused** (`Manifest.leaving`).  A name is refused for leaving the directory only if it starts at
  the root or starts by going up once it is cleaned (`Path.isLocal_eq_false_iff`). -/

namespace GuestHost
namespace Manifest

/-- A module file that is not inside the guest directory. -/
def leaving (directory file : String) : Fault :=
  .manifestInvalid (pathIn directory) "wasm.file"
    ("wasm.file must stay inside the guest directory: " ++ file)

/-- A draft is refused for leaving its directory just when its module file is the first thing wrong
with it and is not local. -/
theorem check_eq_leaving_iff {t : FileTree} {directory : String} {d : Draft} :
    check t directory d = .error (leaving directory d.file) ↔
      d.name ≠ "" ∧ d.version ≠ "" ∧ d.file ≠ "" ∧ Path.isLocal d.file = false := by
  unfold check leaving
  by_cases hname : d.name = ""
  · simp [hname]
  by_cases hversion : d.version = ""
  · simp [hname, hversion]
  by_cases hfile : d.file = ""
  · simp [hname, hversion, hfile]
  cases hlocal : Path.isLocal d.file with
  | false => simp [hname, hversion, hfile]
  | true =>
    simp only [hname, hversion, hfile, Bool.not_true, Bool.false_eq_true, if_false]
    cases Capability.ofNames d.capabilities with
    | error n => split_ifs <;> simp
    | ok cs => split_ifs <;> simp

/-- **The module file stays inside.**  The path of the module of a manifest that is taken is the
directory, cleaned, and behind it names that lead straight down; so in every file tree it names a place
below that of the directory.  A draft is refused for leaving its directory just when nothing is wrong
before its module file and that starts at the root, or is `..` or starts with `../` when it is
cleaned. -/
theorem module_path_stays_inside (t : FileTree) (dir : String) (d : Draft) :
    (∀ m, check t dir d = .ok m → ∃ below, (∀ n ∈ below, Path.Proper n) ∧
      Path.components m.modulePath = Path.components (Path.clean dir) ++ below ∧
      m.modulePath = Path.text (Path.isRooted dir) (Path.components (Path.clean dir) ++ below) ∧
      ∀ u : FileTree, u.placeOf m.modulePath = u.placeOf dir ++ below) ∧
    (check t dir d = .error (leaving dir d.file) ↔ d.name ≠ "" ∧ d.version ≠ "" ∧ d.file ≠ "" ∧
      (Path.isRooted d.file = true ∨ Path.clean d.file = ".." ∨
        ∃ rest, Path.clean d.file = "../" ++ rest)) := by
  constructor
  · intro m hm
    have hchecked := checked_of_check hm
    have hinside := hchecked.inside
    refine ⟨Path.components m.file, Path.proper_of_isLocal hinside, ?_, ?_, fun u => ?_⟩
    · rw [modulePath, hchecked.directory, (Path.components_join dir hinside).1, Path.components_clean]
    · rw [modulePath, hchecked.directory, Path.join_of_isLocal hinside, Path.components_clean]
    · rw [modulePath, hchecked.directory, u.placeOf_join_of_isLocal hinside]
  · rw [check_eq_leaving_iff, Path.isLocal_eq_false_iff]
    refine and_congr_right fun _ => and_congr_right fun _ => and_congr_right fun hfile => ?_
    exact or_iff_right hfile

/-- A name with a dot, a doubled slash and a step up in it is taken under a directory beside the home
directory, and a name that goes up once too often is refused. -/
theorem winding_module_file_stays_inside :
    let dir := "../guests//g"
    let d : Draft :=
      { name := "g", version := "1", file := "./a/../b//g.wasm", capabilities := ["sound"] }
    let t : FileTree :=
      { home := ["work"]
        entries := [(["work"], .directory), (["guests"], .directory), (["guests", "g"], .directory),
          (["guests", "g", "b"], .directory),
          (["guests", "g", "b", "g.wasm"], .file (.module {}))] }
    (∃ m, check t dir d = .ok m ∧ m.modulePath = "../guests/g/b/g.wasm" ∧
      ∃ below, (∀ n ∈ below, Path.Proper n) ∧
        Path.components m.modulePath = Path.components (Path.clean dir) ++ below) ∧
    check t dir { d with file := "a/../../g.wasm" } = .error (leaving dir "a/../../g.wasm") := by
  intro dir d t
  have htaken : (check t dir d).toOption.map modulePath = some "../guests/g/b/g.wasm" := by
    decide +kernel
  obtain ⟨m, hm, hpath⟩ := Guest.exists_ok_of_toOption_map htaken
  obtain ⟨below, hdown, hcomponents, -⟩ := (module_path_stays_inside t dir d).1 m hm
  have hup : Path.clean "a/../../g.wasm" = "../" ++ "g.wasm" := by decide +kernel
  refine ⟨⟨m, hm, hpath, below, hdown, hcomponents⟩, ?_⟩
  exact (module_path_stays_inside t dir { d with file := "a/../../g.wasm" }).2.mpr
    ⟨by decide, by decide, by decide, .inr (.inr ⟨"g.wasm", hup⟩)⟩

end Manifest
end GuestHost
