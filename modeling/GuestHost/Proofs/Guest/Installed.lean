import GuestHost.Catalog
import GuestHost.Proofs.Guest.Discovery

/-! # What a catalog answers

A catalog looks through its directory when it is asked for the first time, and again each time as long
as that fails.

* **Registering** guests keeps the first of every name (`Registry.get?_registerAll`).
* **Looking** (`Catalog.registry_of_loads`).  The registry holds under every name the guest of the first
  sub-directory that loads to a guest of that name, and nothing else (`Registry.Reflects`).
* **Asking** (`Catalog.Occasion`).  Nothing is kept of a look that failed, and after one that went well
  the catalog does not look again, whatever becomes of the files (`Catalog.ask_of_settled`).  So every
  answer from then on is about the files as they were found then (`Catalog.Serves`,
  `Catalog.answers_from_first_look`). -/

namespace GuestHost

namespace Registry

/-- No two guests have the same name. -/
def Distinct (r : Registry) : Prop := (r.guests.map Guest.name).Nodup

theorem distinct_empty : Distinct {} := List.nodup_nil

theorem get?_register (r : Registry) (g : Guest) (name : String) :
    (r.register g).1.get? name = (r.get? name).or (if g.name = name then some g else none) := by
  unfold register
  split
  · rename_i g' hg'
    split_ifs with hname
    · rw [← hname, hg', Option.some_or]
    · rw [Option.or_none]
  · rename_i hnone
    split_ifs with hname
    · simp [get?, List.find?_append, hname]
    · simp [get?, List.find?_append, hname]

theorem Distinct.register {r : Registry} (h : r.Distinct) (g : Guest) : (r.register g).1.Distinct := by
  unfold Registry.register
  split
  · exact h
  · rename_i hnone
    have hnew : g.name ∉ r.guests.map Guest.name := by
      rw [List.mem_map]
      rintro ⟨g', hg', hname⟩
      exact absurd (decide_eq_true hname) (List.find?_eq_none.mp hnone g' hg')
    rw [Distinct, List.map_append, List.nodup_append]
    refine ⟨h, List.nodup_singleton _, ?_⟩
    intro n hn n' hn' hsame
    obtain rfl := List.mem_singleton.mp hn'
    exact hnew (hsame ▸ hn)

/-- **All guests.**  Under a name stands what was there, or the first guest of that name. -/
theorem get?_registerAll (r : Registry) (gs : List Guest) (name : String) :
    (Catalog.registerAll r gs).1.get? name = (r.get? name).or (gs.find? (·.name = name)) := by
  induction gs generalizing r with
  | nil => simp [Catalog.registerAll]
  | cons g gs ih =>
      simp only [Catalog.registerAll]
      rw [ih, get?_register, Option.or_assoc]
      congr 1
      by_cases hname : g.name = name
      · rw [if_pos hname, List.find?_cons_of_pos (by simpa using hname), Option.some_or]
      · rw [if_neg hname, List.find?_cons_of_neg (by simpa using hname), Option.none_or]

theorem Distinct.registerAll {r : Registry} (h : r.Distinct) (gs : List Guest) :
    (Catalog.registerAll r gs).1.Distinct := by
  induction gs generalizing r with
  | nil => exact h
  | cons g gs ih => exact ih (h.register g)

theorem Distinct.mem_sorted_iff {r : Registry} (h : r.Distinct) {g : Guest} :
    g ∈ r.sorted ↔ r.get? g.name = some g := by
  rw [sorted, (List.mergeSort_perm _ _).mem_iff]
  exact Named.mem_iff_find? Guest.name h

/-- The registry has the guests in a directory, as an engine and files show them: under every name the
guest of the first sub-directory that loads to a guest of that name. -/
structure Reflects (e : Engine) (t : FileTree) (directory : String) (r : Registry) : Prop where
  distinct : r.Distinct
  some_iff : ∀ name g, r.get? name = some g ↔ Guest.First e t directory name g
  none_iff : ∀ name, r.get? name = none ↔ ∀ d g, Guest.LoadsTo e t directory d g → g.name ≠ name

/-- Where no sub-directory loads to a guest, the empty registry has them all. -/
theorem reflects_empty {e : Engine} {t : FileTree} {directory : String}
    (h : ∀ d g, ¬ Guest.LoadsTo e t directory d g) : Reflects e t directory {} where
  distinct := distinct_empty
  some_iff name g := by
    constructor
    · intro hg
      cases hg
    · rintro ⟨d, hd, -⟩
      exact absurd hd (h d g)
  none_iff name := ⟨fun _ d g hg => absurd hg (h d g), fun _ => rfl⟩

/-- The guests of a scan, taken in one after the other. -/
theorem reflects_of_discover {e : Engine} {t : FileTree} (ht : t.Sound) {directory : String}
    (hdirectory : directory ≠ "") {guests : List Guest}
    (h : (Guest.discover e t directory).2.1 = .ok guests) :
    Reflects e t directory (Catalog.registerAll {} guests).1 := by
  have hget (name : String) : (Catalog.registerAll {} guests).1.get? name =
      guests.find? (·.name = name) := by
    rw [get?_registerAll]
    rfl
  refine ⟨distinct_empty.registerAll guests, fun name g => ?_, fun name => ?_⟩
  · rw [hget]
    exact Guest.find?_discover_iff ht hdirectory h
  · rw [hget]
    exact Guest.find?_discover_eq_none_iff ht hdirectory h

end Registry

namespace Catalog

/-! ### Looking through the directory -/

/-- The catalog does not look through its directory any more. -/
def Settled (c : Catalog) : Prop := c.loaded = true ∨ c.directory = ""

theorem loadAll_of_settled {c : Catalog} (h : c.Settled) (e : Engine) (t : FileTree) :
    c.loadAll e t = (c, e, none, []) := by
  have hdone : (c.loaded || decide (c.directory = "")) = true := by
    rcases h with h | h <;> simp [h]
  rw [loadAll, if_pos hdone]

/-- A look that goes well settles the catalog; one that fails leaves it as it is. -/
theorem loadAll_cases (c : Catalog) (e : Engine) (t : FileTree) :
    ((c.loadAll e t).2.2.1 = none ∧ (c.loadAll e t).1.Settled) ∨
    (∃ f, (c.loadAll e t).2.2.1 = some f ∧ (c.loadAll e t).1 = c) := by
  unfold loadAll
  split_ifs with hdone
  · refine .inl ⟨rfl, ?_⟩
    simpa [Settled] using hdone
  · split
    · exact .inr ⟨_, rfl, rfl⟩
    · exact .inl ⟨rfl, .inl rfl⟩

theorem list_empty_path (t : FileTree) (entries : List (String × Entry)) :
    t.list "" ≠ .ok entries := by
  have hlocate : t.locate "" = .error .noEntry := rfl
  rw [FileTree.list, hlocate]
  simp

variable {directory : String} {e : Engine} {t : FileTree}

/-- **A look that goes well** finds what there is in the directory. -/
theorem registry_of_loads (ht : t.Sound) (h : (({ directory } : Catalog).loadAll e t).2.2.1 = none) :
    (({ directory } : Catalog).loadAll e t).1.registry.Reflects e t directory := by
  by_cases hdirectory : directory = ""
  · -- Without a directory there are no guests.
    rw [loadAll_of_settled (.inr hdirectory)]
    apply Registry.reflects_empty
    rintro d g ⟨⟨entries, hlist, -⟩, -⟩
    rw [hdirectory] at hlist
    exact list_empty_path t entries hlist
  · have hlook : ¬ (false || decide (directory = "")) = true := by simpa using hdirectory
    unfold loadAll at h ⊢
    rw [if_neg hlook] at h ⊢
    split at h
    · cases h
    · rename_i e' guests log hdiscover
      exact Registry.reflects_of_discover ht hdirectory (by rw [hdiscover])

/-! ### Answers -/

/-- The answers of a catalog, asked with an engine and files, are about the guests in a directory as
they were to be found with an engine and files that may be others. -/
structure Serves (directory : String) (found : Engine × FileTree) (c : Catalog) (e : Engine)
    (t : FileTree) : Prop where
  loads : (c.loadAll e t).2.2.1 = none
  list : ∃ guests, (c.list e t).2.2.1 = .ok guests ∧
    (∀ g, g ∈ guests ↔ Guest.First found.1 found.2 directory g.name g) ∧
    guests.Pairwise fun a b => (Utf8.encode a.name).toList < (Utf8.encode b.name).toList
  guest : ∀ target, t.isThere target = false → ∀ g, (c.resolve e t target).2.2.1 = .ok g ↔
    Guest.First found.1 found.2 directory target g
  unknown : ∀ target, t.isThere target = false →
    ((c.resolve e t target).2.2.1 = .error (.guestUnknown target) ↔
      ∀ d g, Guest.LoadsTo found.1 found.2 directory d g → g.name ≠ target)

theorem list_of_loads {c : Catalog} (h : (c.loadAll e t).2.2.1 = none) :
    (c.list e t).2.2.1 = .ok (c.loadAll e t).1.registry.sorted := by
  unfold list
  split
  · rename_i hload
    rw [hload] at h
    cases h
  · rename_i hload
    rw [hload]

theorem resolve_of_loads {c : Catalog} (h : (c.loadAll e t).2.2.1 = none) {target : String}
    (htarget : t.isThere target = false) :
    (c.resolve e t target).2.2.1 =
      match (c.loadAll e t).1.registry.get? target with
      | some g => .ok g
      | none => .error (.guestUnknown target) := by
  rw [resolve, if_neg (by rw [htarget]; decide)]
  split
  · rename_i hload
    rw [hload] at h
    cases h
  · rename_i c' e' log hload
    rw [hload]
    simp only
    cases c'.registry.get? target with
    | some g => rfl
    | none => rfl

theorem serves_of_reflects {found : Engine × FileTree} {c : Catalog}
    (hloads : (c.loadAll e t).2.2.1 = none)
    (h : (c.loadAll e t).1.registry.Reflects found.1 found.2 directory) :
    Serves directory found c e t := by
  refine ⟨hloads, ⟨_, list_of_loads hloads, fun g => ?_, ?_⟩, fun target htarget g => ?_,
    fun target htarget => ?_⟩
  · rw [h.distinct.mem_sorted_iff, h.some_iff]
  · exact Named.increasing_mergeSort Guest.name h.distinct
  · rw [resolve_of_loads hloads htarget, ← h.some_iff]
    cases (c.loadAll e t).1.registry.get? target <;> simp
  · rw [resolve_of_loads hloads htarget, ← h.none_iff]
    cases (c.loadAll e t).1.registry.get? target <;> simp

/-! ### Asking again and again -/

/-- A question to a catalog. -/
inductive Query
  | loadAll
  | list
  | resolve (target : String)

/-- A question, and the engine and the files as they are when it is asked. -/
structure Occasion where
  engine : Engine
  files : FileTree
  query : Query

/-- The catalog after a question. -/
def ask (c : Catalog) (o : Occasion) : Catalog :=
  match o.query with
  | .loadAll => (c.loadAll o.engine o.files).1
  | .list => (c.list o.engine o.files).1
  | .resolve target => (c.resolve o.engine o.files target).1

/-- The catalog after questions. -/
def after (c : Catalog) (os : List Occasion) : Catalog := os.foldl ask c

/-- The question is about the directory, and not about a path that exists. -/
def Occasion.Looks (o : Occasion) : Prop :=
  ∀ target, o.query = .resolve target → o.files.isThere target = false

/-- A new catalog that is asked looks through the directory without a fault. -/
def Occasion.Succeeds (directory : String) (o : Occasion) : Prop :=
  o.Looks ∧ (({ directory } : Catalog).loadAll o.engine o.files).2.2.1 = none

theorem ask_of_looks {o : Occasion} (h : o.Looks) (c : Catalog) :
    c.ask o = (c.loadAll o.engine o.files).1 := by
  obtain ⟨e, t, query⟩ := o
  cases query with
  | loadAll => rfl
  | list =>
      simp only [ask, Catalog.list]
      split <;> rename_i hload <;> rw [hload]
  | resolve target =>
      have hthere : t.isThere target = false := h target rfl
      simp only [ask, resolve, hthere, Bool.false_eq_true, if_false]
      split
      · rename_i hload
        rw [hload]
      · rename_i hload
        rw [hload]
        split <;> rfl

theorem ask_of_not_looks {o : Occasion} (h : ¬ o.Looks) (c : Catalog) : c.ask o = c := by
  obtain ⟨e, t, query⟩ := o
  simp only [Occasion.Looks, not_forall] at h
  obtain ⟨target, rfl, hthere⟩ := h
  simp only [ask, resolve, Bool.not_eq_false] at hthere ⊢
  rw [if_pos hthere]

theorem ask_of_settled {c : Catalog} (h : c.Settled) (o : Occasion) : c.ask o = c := by
  by_cases hlooks : o.Looks
  · rw [ask_of_looks hlooks, loadAll_of_settled h]
  · exact ask_of_not_looks hlooks c

theorem after_of_settled {c : Catalog} (h : c.Settled) (os : List Occasion) : c.after os = c := by
  induction os with
  | nil => rfl
  | cons o os ih => rw [after, List.foldl_cons, ask_of_settled h, ← after, ih]

theorem after_of_fails {os : List Occasion} (h : ∀ o ∈ os, ¬ o.Succeeds directory) :
    ({ directory } : Catalog).after os = { directory } := by
  induction os with
  | nil => rfl
  | cons o os ih =>
      have hfirst : ({ directory } : Catalog).ask o = { directory } := by
        by_cases hlooks : o.Looks
        · obtain ⟨hnone, -⟩ | ⟨f, -, hsame⟩ :=
            ({ directory } : Catalog).loadAll_cases o.engine o.files
          · exact absurd ⟨hlooks, hnone⟩ (h o List.mem_cons_self)
          · rw [ask_of_looks hlooks, hsame]
        · exact ask_of_not_looks hlooks _
      rw [after, List.foldl_cons, hfirst]
      exact ih fun b hb => h b (List.mem_cons_of_mem o hb)

/-- From the first look that goes well on the catalog is what that look made of it. -/
theorem after_of_succeeds {before : List Occasion} {o : Occasion}
    (hbefore : ∀ b ∈ before, ¬ b.Succeeds directory) (ho : o.Succeeds directory)
    (later : List Occasion) :
    ({ directory } : Catalog).after (before ++ o :: later) =
      (({ directory } : Catalog).loadAll o.engine o.files).1 ∧
    (({ directory } : Catalog).loadAll o.engine o.files).1.Settled := by
  obtain ⟨hlooks, hloads⟩ := ho
  have hsettled : (({ directory } : Catalog).loadAll o.engine o.files).1.Settled := by
    obtain ⟨-, hsettled⟩ | ⟨f, hf, -⟩ := ({ directory } : Catalog).loadAll_cases o.engine o.files
    · exact hsettled
    · rw [hf] at hloads
      cases hloads
  have hrun : ({ directory } : Catalog).after (before ++ o :: later) =
      ((({ directory } : Catalog).after before).ask o).after later := by
    rw [after, List.foldl_append, List.foldl_cons]
    rfl
  refine ⟨?_, hsettled⟩
  rw [hrun, after_of_fails hbefore, ask_of_looks hlooks, after_of_settled hsettled]

/-- **Answers from the first look that goes well on.**  They are about the sub-directories as they were
then, each loaded by itself: under every name the guest of the first one, in byte order, that loads to a
guest of that name.  Looks that failed before leave no trace, and whatever becomes of the files and of
the engine afterwards changes nothing. -/
theorem answers_from_first_look {before : List Occasion} {o : Occasion}
    (hbefore : ∀ b ∈ before, ¬ b.Succeeds directory) (ho : o.Succeeds directory)
    (hfiles : o.files.Sound) (later : List Occasion) :
    Serves directory (o.engine, o.files) (({ directory } : Catalog).after before) o.engine o.files ∧
    ∃ c, ({ directory } : Catalog).after (before ++ o :: later) = c ∧
      (∀ name g, c.registry.get? name = some g ↔ Guest.First o.engine o.files directory name g) ∧
      (∀ g ∈ c.registry.guests, Guest.First o.engine o.files directory g.name g) ∧
      ∀ e t, Serves directory (o.engine, o.files) c e t := by
  obtain ⟨hrun, hsettled⟩ := after_of_succeeds hbefore ho later
  have hregistry := registry_of_loads hfiles ho.2
  refine ⟨?_, _, hrun, hregistry.some_iff, fun g hg => ?_, fun e t => ?_⟩
  · rw [after_of_fails hbefore]
    exact serves_of_reflects ho.2 hregistry
  · exact (hregistry.some_iff g.name g).mp
      ((Named.mem_iff_find? Guest.name hregistry.distinct).mp hg)
  · have hdone := loadAll_of_settled hsettled e t
    exact serves_of_reflects (by rw [hdone]) (by rw [hdone]; exact hregistry)

/-- A directory without a manifest, and two with guests of one name. -/
def twoOfOneName : FileTree :=
  let manifest : Entry := .file (.bytes
    "name: g\nversion: '1'\nwasm: \x7bfile: g.wasm\x7d\ncapabilities: [sound]".toUTF8.data)
  { entries := [(["guests"], .directory), (["guests", "a"], .directory),
      (["guests", "b"], .directory), (["guests", "b", "manifest.yaml"], manifest),
      (["guests", "b", "g.wasm"], .file (.module {})), (["guests", "c"], .directory),
      (["guests", "c", "manifest.yaml"], manifest), (["guests", "c", "g.wasm"], .file (.module {}))] }

/-- A question asked when the directory is a file. -/
def early : Occasion where
  engine := Engine.new {} fun _ => ""
  files := { entries := [(["guests"], .file (.bytes #[]))] }
  query := .list

/-- A question for the guest of which there are two. -/
def search : Occasion where
  engine := Engine.new {} fun _ => ""
  files := twoOfOneName
  query := .resolve "g"

/-- A question asked when the directory is gone. -/
def late : Occasion where
  engine := Engine.new {} fun _ => ""
  files := {}
  query := .loadAll

theorem early_fails : ¬ early.Succeeds "/guests" := by
  rintro ⟨-, hloads⟩
  revert hloads
  decide +kernel

theorem search_succeeds : search.Succeeds "/guests" := by
  refine ⟨fun target htarget => ?_, by decide +kernel⟩
  cases htarget
  decide +kernel

theorem sound_twoOfOneName : twoOfOneName.Sound := by
  have hplain : ∀ n ∈ ["guests", "a", "b", "c", "manifest.yaml", "g.wasm"], Path.Plain n := by
    intro n hn
    simp only [List.mem_cons, List.not_mem_nil, or_false] at hn
    rcases hn with rfl | rfl | rfl | rfl | rfl | rfl <;>
      exact ⟨⟨by decide, by decide, by decide⟩, by decide⟩
  refine ⟨by simp [twoOfOneName], ?_, by decide⟩
  intro p hp n hn
  refine hplain n ?_
  revert n
  revert p
  decide

theorem list_twoOfOneName :
    twoOfOneName.list "/guests" = .ok [("a", .directory), ("b", .directory), ("c", .directory)] := by
  have hsorted : ([("a", .directory), ("b", .directory), ("c", .directory)] :
      List (String × Entry)).Pairwise fun a b => decide (a.1 ≤ b.1) = true := by
    decide
  exact congrArg Except.ok (List.mergeSort_of_pairwise hsorted)

/-- The directory is a file first.  Then there are a broken guest and two guests of one name in it, of
which the first is taken, and it still is when the directory is gone. -/
theorem first_of_two_kept :
    (∀ b ∈ [early], ¬ b.Succeeds "/guests") ∧ search.Succeeds "/guests" ∧ search.files.Sound ∧
    ∃ c, ({ directory := "/guests" } : Catalog).after ([early] ++ search :: [late]) = c ∧
      c.registry.guests.map (fun g => (g.name, g.manifest.directory)) = [("g", "/guests/b")] ∧
      Serves "/guests" (search.engine, search.files) c late.engine late.files := by
  have hbefore : ∀ b ∈ [early], ¬ b.Succeeds "/guests" := by
    intro b hb
    rw [List.mem_singleton.mp hb]
    exact early_fails
  obtain ⟨-, c, hc, -, -, hserves⟩ :=
    answers_from_first_look hbefore search_succeeds sound_twoOfOneName [late]
  refine ⟨hbefore, search_succeeds, sound_twoOfOneName, c, hc, ?_, hserves late.engine late.files⟩
  rw [← hc, (after_of_succeeds hbefore search_succeeds [late]).1, search, loadAll]
  simp only [Guest.discover, list_twoOfOneName]
  decide +kernel

end Catalog
end GuestHost
