import GuestHost.Proofs.Files.Soundness
import GuestHost.Proofs.Guest.Loading

/-! # What a scan of a directory finds

A scan loads the sub-directories of a directory one after the other with the same engine, and the
engine keeps every module that was compiled under the path of its file.

* **Paths.**  The module of a guest directory is kept under a path below that directory, so different
  sub-directories never use the same path (`Guest.eq_of_modulePath_eq`).
* **Independence.**  Hence what comes of a sub-directory does not depend on the others, whether they
  are guests or broken (`Guest.guests_foldl_visit`).
* **Findings.**  A scan finds the guests that its sub-directories load to, each taken by itself, in
  byte order of the names of the sub-directories (`Guest.discover_ok`).  The first of a name among
  them is told by `Guest.First`. -/

namespace GuestHost

/-! ### Paths of modules -/

namespace Manifest

theorem isLocal_of_load {t : FileTree} {directory : String} {m : Manifest}
    (h : load t directory = .ok m) :
    Path.isLocal m.file = true ∧ isMissing t m.modulePath = false := by
  obtain ⟨-, d, -, -, hchecked⟩ := checked_of_load h
  exact ⟨hchecked.inside, hchecked.there⟩

end Manifest

namespace Guest

theorem name_source_of_load {t : FileTree} {dir : String} {m : Manifest}
    (h : Manifest.load t dir = .ok m) : (source m).name = m.modulePath := by
  have hne : m.modulePath ≠ "" := by
    intro hempty
    have hthere := (Manifest.isLocal_of_load h).2
    rw [hempty] at hthere
    cases hthere
  simp [source, Source.name, hne]

/-- **Different sub-directories** have different paths for their modules. -/
theorem eq_of_modulePath_eq {t : FileTree} {base d d' : String} {m m' : Manifest} (hbase : base ≠ "")
    (hd : Path.Plain d) (hd' : Path.Plain d') (hm : Manifest.load t (Path.join base d) = .ok m)
    (hm' : Manifest.load t (Path.join base d') = .ok m') (h : m.modulePath = m'.modulePath) :
    d = d' := by
  have hplace : ∀ {d : String} {m : Manifest}, Path.Plain d →
      Manifest.load t (Path.join base d) = .ok m →
      t.placeOf m.modulePath = t.placeOf base ++ d :: Path.components m.file := by
    intro d m hd hm
    obtain ⟨hdirectory, -⟩ := Manifest.directory_of_load hm
    obtain ⟨hlocal, -⟩ := Manifest.isLocal_of_load hm
    rw [Manifest.modulePath, hdirectory,
      t.placeOf_join_of_isLocal hlocal,
      t.placeOf_join hbase hd.toProper hd.no_slash, List.append_assoc]
    rfl
  have hsame := (hplace hd hm).symm.trans (h ▸ hplace hd' hm')
  exact (List.cons.inj (List.append_cancel_left hsame)).1

end Guest

/-! ### Engines that agree about a module -/

namespace Engine

/-- The second engine makes of a module what the first makes of it. -/
structure Same (name : String) (e e' : Engine) : Prop where
  config : e'.config = e.config
  closed : e'.closed = e.closed
  module : e'.module? name = e.module? name

theorem Same.refl (name : String) (e : Engine) : Same name e e := ⟨rfl, rfl, rfl⟩

theorem Same.trans {name : String} {e e' e'' : Engine} (h : Same name e e') (h' : Same name e' e'') :
    Same name e e'' :=
  ⟨h'.config.trans h.config, h'.closed.trans h.closed, h'.module.trans h.module⟩

theorem same_load (e : Engine) (t : FileTree) {s : Source} {name : String} (h : s.name ≠ name) :
    Same name e (e.load t s).1 := by
  unfold load
  simp only
  split_ifs
  · exact .refl name e
  · split
    · exact .refl name e
    · split
      · exact .refl name e
      · split
        · exact .refl name e
        · refine ⟨rfl, rfl, ?_⟩
          simp [module?, List.find?_append, h]

/-- What comes of a module depends on the engine only as far as it makes something of it. -/
theorem load_congr {e e' : Engine} (t : FileTree) {s : Source} (h : Same s.name e e') :
    (e'.load t s).2.1 = (e.load t s).2.1 := by
  unfold load
  simp only [h.config, h.closed, h.module]
  split_ifs
  · rfl
  · split
    · rfl
    · split
      · rfl
      · split <;> rfl

end Engine

namespace Guest

theorem loadModule_fst (e : Engine) (t : FileTree) (m : Manifest) (s : Source) :
    (loadModule e t m s).1 = (e.load t s).1 := by
  unfold loadModule
  simp only
  split
  · rename_i hload
    rw [hload]
  · rename_i hload
    rw [hload]
    split <;> rfl

theorem same_loadModule (e : Engine) (t : FileTree) (m : Manifest) {s : Source} {name : String}
    (h : s.name ≠ name) : Engine.Same name e (loadModule e t m s).1 := by
  rw [loadModule_fst]
  exact e.same_load t h

theorem loadModule_congr {e e' : Engine} (t : FileTree) (m : Manifest) {s : Source}
    (h : Engine.Same s.name e e') : (loadModule e' t m s).2.1 = (loadModule e t m s).2.1 := by
  have hload := Engine.load_congr t h
  unfold loadModule
  rcases hl : e.load t s with ⟨e₁, f | c, log⟩
  · rcases hl' : e'.load t s with ⟨e₂, f' | c', log'⟩
    · rw [hl, hl'] at hload
      cases hload
      rfl
    · rw [hl, hl'] at hload
      cases hload
  · rcases hl' : e'.load t s with ⟨e₂, f' | c', log'⟩
    · rw [hl, hl'] at hload
      cases hload
    · rw [hl, hl'] at hload
      cases hload
      simp only
      split <;> rfl

theorem same_loadDirectory (e : Engine) {t : FileTree} {dir name : String}
    (h : ∀ m, Manifest.load t dir = .ok m → m.modulePath ≠ name) :
    Engine.Same name e (loadDirectory e t dir).1 := by
  unfold loadDirectory
  simp only
  split
  · exact .refl name e
  · rename_i m hm
    exact same_loadModule e t m (by rw [name_source_of_load hm]; exact h m hm)

theorem loadDirectory_congr {e e' : Engine} {t : FileTree} {dir : String}
    (h : ∀ m, Manifest.load t dir = .ok m → Engine.Same m.modulePath e e') :
    (loadDirectory e' t dir).2.1 = (loadDirectory e t dir).2.1 := by
  unfold loadDirectory
  simp only
  split
  · rfl
  · rename_i m hm
    exact loadModule_congr t m (by rw [name_source_of_load hm]; exact h m hm)

theorem same_visit {t : FileTree} (s : Findings) {dir name : String}
    (h : ∀ m, Manifest.load t dir = .ok m → m.modulePath ≠ name) :
    Engine.Same name s.engine (visit t s dir).engine := by
  have hsame := same_loadDirectory s.engine h
  unfold visit
  split
  all_goals
    rename_i hload
    rw [hload] at hsame
    exact hsame

/-! ### Scans -/

/-- The guest that a directory loads to, if any. -/
def found? (e : Engine) (t : FileTree) (dir : String) : Option Guest :=
  (loadDirectory e t dir).2.1.toOption

theorem guests_visit (t : FileTree) (s : Findings) (dir : String) :
    (visit t s dir).guests = s.guests ++ (found? s.engine t dir).toList := by
  unfold visit found?
  split <;> rename_i hload <;> rw [hload] <;> simp [Except.toOption]

/-- **Independence.**  Visiting sub-directories one after the other finds what each of them loads to
by itself. -/
theorem guests_foldl_visit {t : FileTree} {base : String} (hbase : base ≠ "") (e : Engine)
    {ds : List String} (hplain : ∀ d ∈ ds, Path.Plain d) (hnodup : ds.Nodup) (s : Findings)
    (hsame : ∀ d ∈ ds, ∀ m, Manifest.load t (Path.join base d) = .ok m →
      Engine.Same m.modulePath e s.engine) :
    ((ds.map (Path.join base)).foldl (visit t) s).guests =
      s.guests ++ ds.filterMap fun d => found? e t (Path.join base d) := by
  induction ds generalizing s with
  | nil => simp
  | cons d ds ih =>
      obtain ⟨hd, hrest⟩ := List.nodup_cons.mp hnodup
      have hnext : ∀ d' ∈ ds, ∀ m, Manifest.load t (Path.join base d') = .ok m →
          Engine.Same m.modulePath e (visit t s (Path.join base d)).engine := by
        intro d' hd' m hm
        refine (hsame d' (List.mem_cons_of_mem d hd') m hm).trans (same_visit s fun m' hm' heq => ?_)
        obtain rfl := eq_of_modulePath_eq hbase (hplain d List.mem_cons_self)
          (hplain d' (List.mem_cons_of_mem d hd')) hm' hm heq
        exact hd hd'
      have hfound : found? s.engine t (Path.join base d) = found? e t (Path.join base d) :=
        congrArg Except.toOption (loadDirectory_congr (hsame d List.mem_cons_self))
      rw [List.map_cons, List.foldl_cons, ih (fun d' hd' => hplain d' (List.mem_cons_of_mem d hd'))
        hrest _ hnext, guests_visit, hfound, List.filterMap_cons, List.append_assoc]
      cases found? e t (Path.join base d) <;> rfl

/-- The names of the directories among entries. -/
def subdirectories (entries : List (String × Entry)) : List String :=
  (entries.filter (·.2.isDirectory)).map (·.1)

theorem mem_subdirectories {entries : List (String × Entry)} {d : String} :
    d ∈ subdirectories entries ↔ (d, Entry.directory) ∈ entries := by
  simp only [subdirectories, List.mem_map, List.mem_filter]
  constructor
  · rintro ⟨⟨n, entry⟩, ⟨hmem, hdirectory⟩, rfl⟩
    cases entry with
    | directory => exact hmem
    | file c => cases hdirectory
    | fullDevice => cases hdirectory
  · intro hmem
    exact ⟨_, ⟨hmem, rfl⟩, rfl⟩

theorem directoriesIn_eq (base : String) (entries : List (String × Entry)) :
    directoriesIn base entries = (subdirectories entries).map (Path.join base) := by
  rw [directoriesIn, subdirectories, List.map_map]
  rfl

/-- The sub-directories have plain names, and are in byte order of them. -/
theorem increasing_subdirectories {t : FileTree} (ht : t.Sound) {base : String}
    {entries : List (String × Entry)} (hlist : t.list base = .ok entries) :
    (∀ d ∈ subdirectories entries, Path.Plain d) ∧
    (subdirectories entries).Pairwise fun d d' =>
      (Utf8.encode d).toList < (Utf8.encode d').toList := by
  obtain ⟨hplain, hincreasing⟩ := ht.increasing_list hlist
  constructor
  · intro d hd
    exact hplain _ (mem_subdirectories.mp hd)
  · exact List.pairwise_map.mpr (hincreasing.sublist List.filter_sublist)

/-- **A scan** of a directory that can be read. -/
theorem discover_ok {e : Engine} {t : FileTree} (ht : t.Sound) {base : String} (hbase : base ≠ "")
    {entries : List (String × Entry)} (hlist : t.list base = .ok entries) :
    (discover e t base).2.1 =
      .ok ((subdirectories entries).filterMap fun d => found? e t (Path.join base d)) := by
  obtain ⟨hplain, hincreasing⟩ := increasing_subdirectories ht hlist
  have hnodup : (subdirectories entries).Nodup := by
    refine hincreasing.imp ?_
    rintro d _ hlt rfl
    exact List.lt_irrefl _ hlt
  have hguests := guests_foldl_visit (t := t) hbase e hplain hnodup { engine := e }
    fun _ _ _ _ => .refl _ e
  simp only [discover, hlist, directoriesIn_eq]
  rw [hguests, List.nil_append]

/-! ### The first guest of a name -/

section

variable (e : Engine) (t : FileTree) (base : String)

/-- A sub-directory that loads to a guest, taken by itself. -/
structure LoadsTo (d : String) (g : Guest) : Prop where
  subdirectory : ∃ entries, t.list base = .ok entries ∧ (d, Entry.directory) ∈ entries
  guest : (loadDirectory e t (Path.join base d)).2.1 = .ok g

/-- The guest of a name in the first sub-directory, by byte order, that loads to a guest of that
name. -/
def First (name : String) (g : Guest) : Prop :=
  ∃ d, LoadsTo e t base d g ∧ g.name = name ∧
    ∀ d' g', LoadsTo e t base d' g' → g'.name = name → d' ≠ d →
      (Utf8.encode d).toList < (Utf8.encode d').toList

end

theorem find?_filterMap_eq_some_iff {α : Type} {f : String → Option α} {p : α → Bool}
    {ds : List String}
    (h : ds.Pairwise fun d d' => (Utf8.encode d).toList < (Utf8.encode d').toList) {a : α} :
    (ds.filterMap f).find? p = some a ↔
      ∃ d ∈ ds, f d = some a ∧ p a = true ∧ ∀ d' ∈ ds, ∀ a', f d' = some a' → p a' = true → d' ≠ d →
        (Utf8.encode d).toList < (Utf8.encode d').toList := by
  induction ds with
  | nil => simp
  | cons d ds ih =>
      obtain ⟨hfirst, hrest⟩ := List.pairwise_cons.mp h
      by_cases hd : ∃ b, f d = some b ∧ p b = true
      · -- The first member is taken, and every other one comes after it.
        obtain ⟨b, hb, hp⟩ := hd
        rw [List.filterMap_cons_some hb, List.find?_cons_of_pos hp]
        constructor
        · intro hba
          obtain rfl := Option.some.inj hba
          refine ⟨d, List.mem_cons_self, hb, hp, fun d' hd' _ _ _ hne => ?_⟩
          exact hfirst d' ((List.mem_cons.mp hd').resolve_left hne)
        · rintro ⟨d', hd', ha, -, hleast⟩
          rcases List.mem_cons.mp hd' with rfl | hd'
          · rw [← hb, ha]
          · by_cases hne : d = d'
            · rw [← hb, hne, ha]
            · have hlt := hleast d List.mem_cons_self b hb hp hne
              exact absurd (hfirst d' hd') (List.not_lt.mpr (List.le_of_lt hlt))
      · -- The first member does not count.
        have hskip : ((d :: ds).filterMap f).find? p = (ds.filterMap f).find? p := by
          cases hb : f d with
          | none => rw [List.filterMap_cons_none hb]
          | some b =>
              rw [List.filterMap_cons_some hb, List.find?_cons_of_neg fun hp => hd ⟨b, hb, hp⟩]
        rw [hskip, ih hrest]
        constructor
        · rintro ⟨d', hd', ha, hp, hleast⟩
          refine ⟨d', List.mem_cons_of_mem d hd', ha, hp, fun d'' hd'' b hb hpb hne => ?_⟩
          rcases List.mem_cons.mp hd'' with rfl | hd''
          · exact absurd ⟨b, hb, hpb⟩ hd
          · exact hleast d'' hd'' b hb hpb hne
        · rintro ⟨d', hd', ha, hp, hleast⟩
          rcases List.mem_cons.mp hd' with rfl | hd'
          · exact absurd ⟨a, ha, hp⟩ hd
          · exact ⟨d', hd', ha, hp, fun d'' hd'' => hleast d'' (List.mem_cons_of_mem d hd'')⟩

theorem mem_subdirectories_and_found_iff {e : Engine} {t : FileTree} {base : String}
    {entries : List (String × Entry)} (hlist : t.list base = .ok entries) {d : String} {g : Guest} :
    d ∈ subdirectories entries ∧ found? e t (Path.join base d) = some g ↔ LoadsTo e t base d g := by
  have hfound : found? e t (Path.join base d) = some g ↔
      (loadDirectory e t (Path.join base d)).2.1 = .ok g := by
    unfold found?
    cases (loadDirectory e t (Path.join base d)).2.1 <;> simp [Except.toOption]
  rw [hfound, mem_subdirectories]
  constructor
  · rintro ⟨hd, hg⟩
    exact ⟨⟨entries, hlist, hd⟩, hg⟩
  · rintro ⟨⟨entries', hlist', hd⟩, hg⟩
    obtain rfl := Except.ok.inj (hlist.symm.trans hlist')
    exact ⟨hd, hg⟩

/-- What a scan that goes well is about: the entries of the directory, or nothing. -/
theorem discover_cases {e : Engine} {t : FileTree} {base : String} {guests : List Guest}
    (h : (discover e t base).2.1 = .ok guests) :
    (∃ entries, t.list base = .ok entries) ∨
    ((∀ entries, t.list base ≠ .ok entries) ∧ guests = []) := by
  unfold discover at h
  split at h
  · rename_i hlist
    exact .inr ⟨by simp [hlist], (Except.ok.inj h).symm⟩
  · cases h
  · rename_i entries hlist
    exact .inl ⟨entries, hlist⟩

/-- **Among the guests of a scan** the first of a name is that of the first sub-directory. -/
theorem find?_discover_iff {e : Engine} {t : FileTree} (ht : t.Sound) {base : String}
    (hbase : base ≠ "") {guests : List Guest} (h : (discover e t base).2.1 = .ok guests)
    {name : String} {g : Guest} :
    guests.find? (·.name = name) = some g ↔ First e t base name g := by
  obtain ⟨entries, hlist⟩ | ⟨hlist, rfl⟩ := discover_cases h
  · obtain ⟨-, hincreasing⟩ := increasing_subdirectories ht hlist
    obtain rfl := Except.ok.inj (h.symm.trans (discover_ok ht hbase hlist))
    rw [find?_filterMap_eq_some_iff hincreasing]
    simp only [First, ← mem_subdirectories_and_found_iff hlist, decide_eq_true_eq]
    constructor
    · rintro ⟨d, hd, hg, hname, hleast⟩
      exact ⟨d, ⟨hd, hg⟩, hname, fun d' g' h' => hleast d' h'.1 g' h'.2⟩
    · rintro ⟨d, ⟨hd, hg⟩, hname, hleast⟩
      exact ⟨d, hd, hg, hname, fun d' hd' g' hg' => hleast d' g' ⟨hd', hg'⟩⟩
  · constructor
    · intro hnone
      cases hnone
    · rintro ⟨d, ⟨⟨entries, hentries, -⟩, -⟩, -⟩
      exact absurd hentries (hlist entries)

/-- No guest of a scan has a name just when no sub-directory loads to a guest of that name. -/
theorem find?_discover_eq_none_iff {e : Engine} {t : FileTree} (ht : t.Sound) {base : String}
    (hbase : base ≠ "") {guests : List Guest} (h : (discover e t base).2.1 = .ok guests)
    {name : String} :
    guests.find? (·.name = name) = none ↔ ∀ d g, LoadsTo e t base d g → g.name ≠ name := by
  obtain ⟨entries, hlist⟩ | ⟨hlist, rfl⟩ := discover_cases h
  · obtain rfl := Except.ok.inj (h.symm.trans (discover_ok ht hbase hlist))
    simp only [List.find?_eq_none, List.mem_filterMap, decide_eq_true_eq,
      ← mem_subdirectories_and_found_iff hlist]
    constructor
    · rintro hnone d g ⟨hd, hg⟩
      exact hnone g ⟨d, hd, hg⟩
    · rintro hnone g ⟨d, hd, hg⟩
      exact hnone d g ⟨hd, hg⟩
  · refine ⟨fun _ d g hg => ?_, fun _ => rfl⟩
    obtain ⟨entries, hentries, -⟩ := hg.subdirectory
    exact absurd hentries (hlist entries)

end Guest
end GuestHost
