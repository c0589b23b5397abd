import GuestHost.Guest
import GuestHost.Proofs.Engine.History

/-! # What a guest can reach

A guest reaches the host only through the functions of the capabilities that its manifest declares.
Three tables have a say in that: the capability of every function (`HostFunction.capability`), the
functions that every capability offers (`Environment.offers`) and the names by which capabilities are
declared (`Capability.name`).

* **Declared** (`Manifest.Declares`).  The capabilities of a usable manifest are those in its file,
  and there is at least one.  So the rule that no capabilities stand for all of them never applies to
  a guest.
* **Admitted** (`Manifest.Admits`).  A module is taken just when every host function it imports is
  known and its capability declared.
* **Offered** (`Guest.Runs`).  Whenever an instance of the guest is made, however much later, the host
  module made for it exports the functions of the declared capabilities: all that the guest imports,
  and none of another capability.  So an instance never fails for a host function, but for what else it
  takes (`Engine.Ready`). -/

namespace GuestHost

/-! ### Names and capabilities -/

theorem HostFunction.ofName?_eq_some_iff {s : String} {f : HostFunction} :
    ofName? s = some f ↔ f.name = s := by
  constructor
  · intro hf
    simpa using List.find?_some hf
  · rintro rfl
    exact ofName?_name f

theorem Environment.mem_names {cs : List Capability} {name : String} :
    name ∈ names cs ↔ ∃ c ∈ cs, HostFunction.capabilityOf? name = some c := by
  simp only [names, List.mem_map, mem_functions, HostFunction.capabilityOf?, Option.map_eq_some_iff,
    HostFunction.ofName?_eq_some_iff]
  constructor
  · rintro ⟨f, hf, rfl⟩
    exact ⟨f.capability, hf, f, rfl, rfl⟩
  · rintro ⟨c, hc, f, rfl, rfl⟩
    exact ⟨f, hc, rfl⟩

theorem Capability.mem_all (c : Capability) : c ∈ all := by
  cases c <;> decide

theorem Capability.eq_map_name_of_ofNames {ns : List String} {cs : List Capability}
    (h : ofNames ns = .ok cs) : ns = cs.map name := by
  induction ns generalizing cs with
  | nil =>
    cases h
    rfl
  | cons n r ih =>
    simp only [ofNames] at h
    split at h
    · cases h
    · rename_i c hc
      cases hr : ofNames r with
      | error s =>
        rw [hr] at h
        cases h
      | ok cs' =>
        rw [hr] at h
        cases h
        have hname : c.name = n := by simpa using List.find?_some hc
        rw [ih hr, List.map_cons, hname]

/-! ### Declared capabilities -/

namespace Manifest

/-- The manifest file of a directory declares capabilities, in this order and as often. -/
def Declares (t : FileTree) (directory : String) (cs : List Capability) : Prop :=
  ∃ content d, t.readFile (pathIn directory) = .ok content ∧
    Draft.ofBytes? content.data = some d ∧ d.capabilities = cs.map Capability.name

/-- What is known of a manifest that came of a draft. -/
structure Checked (t : FileTree) (directory : String) (d : Draft) (m : Manifest) : Prop where
  directory : m.directory = directory
  file : m.file = d.file
  inside : Path.isLocal m.file = true
  there : isMissing t m.modulePath = false
  some_capability : m.capabilities ≠ []
  capabilities : d.capabilities = m.capabilities.map Capability.name

/-- Every check passes before a draft becomes a manifest. -/
theorem checked_of_check {t : FileTree} {directory : String} {d : Draft} {m : Manifest}
    (h : check t directory d = .ok m) : Checked t directory d m := by
  cases hcs : Capability.ofNames d.capabilities with
  | error n =>
    simp only [check, hcs] at h
    split_ifs at h
  | ok cs =>
    have hnames := Capability.eq_map_name_of_ofNames hcs
    simp only [check, hcs] at h
    split_ifs at h with _ _ _ hlocal hnone hmissing
    all_goals
      cases h
      refine ⟨rfl, rfl, by simpa using hlocal, Bool.eq_false_iff.mpr hmissing, ?_, hnames⟩
      rintro rfl
      exact hnone (by rw [hnames]; rfl)

/-- The manifest of a directory came of the draft in its file. -/
theorem checked_of_load {t : FileTree} {directory : String} {m : Manifest}
    (h : load t directory = .ok m) :
    ∃ content d, t.readFile (pathIn directory) = .ok content ∧
      Draft.ofBytes? content.data = some d ∧ Checked t directory d m := by
  simp only [load] at h
  split at h
  · cases h
  · rename_i content hcontent
    split at h
    · cases h
    · rename_i d hd
      exact ⟨content, d, hcontent, hd, checked_of_check h⟩

theorem load_capabilities {t : FileTree} {directory : String} {m : Manifest}
    (h : load t directory = .ok m) :
    m.capabilities ≠ [] ∧ Declares t directory m.capabilities := by
  obtain ⟨content, d, hcontent, hd, hchecked⟩ := checked_of_load h
  exact ⟨hchecked.some_capability, content, d, hcontent, hd, hchecked.capabilities⟩

/-- Every host function among the imports is known, and its capability is declared. -/
def Admits (m : Manifest) (imports : List Import) : Prop :=
  ∀ i ∈ imports, i.module = HostFunction.moduleName →
    ∃ c ∈ m.capabilities, HostFunction.capabilityOf? i.name = some c

end Manifest

/-! ### Loading -/

namespace Guest

theorem importFault?_eq_none_iff {m : Manifest} {i : Import} :
    importFault? m i = none ↔ (i.module = HostFunction.moduleName →
      ∃ c ∈ m.capabilities, HostFunction.capabilityOf? i.name = some c) := by
  unfold importFault?
  split_ifs with hmodule
  · simp [hmodule]
  · rw [not_not] at hmodule
    cases hc : HostFunction.capabilityOf? i.name with
    | none => simp [hmodule]
    | some c => simp [hmodule, Manifest.grants]

theorem importsFault?_eq_none_iff {m : Manifest} {imports : List Import} :
    importsFault? m imports = none ↔ m.Admits imports := by
  simp only [importsFault?, List.findSome?_eq_none_iff, importFault?_eq_none_iff]
  rfl

/-- Once its module is compiled, a guest is taken just when its manifest admits the imports. -/
theorem loadModule_of_load {e e' : Engine} {t : FileTree} {m : Manifest} {s : Source}
    {c : Compiled} {log : Journal} (h : e.load t s = (e', .ok c, log)) :
    (loadModule e t m s).1 = e' ∧
    ∀ g, (loadModule e t m s).2.1 = .ok g ↔ g = ⟨m, c⟩ ∧ m.Admits c.module.imports := by
  simp only [loadModule, h, ← importsFault?_eq_none_iff]
  cases importsFault? m c.module.imports with
  | none => simp [eq_comm]
  | some f => simp

end Guest

namespace Engine

/-- A module that was loaded has the name of its source and is found under it, and the engine is
open. -/
theorem module?_of_load {e e' : Engine} {t : FileTree} {s : Source} {c : Compiled} {log : Journal}
    (h : e.load t s = (e', .ok c, log)) :
    c.name = s.name ∧ e'.closed = false ∧ e'.module? c.name = some c := by
  simp only [load] at h
  split_ifs at h with hclosed
  · cases h
  rw [Bool.not_eq_true] at hclosed
  cases hcached : e.module? s.name with
  | some c' =>
    -- Taken from the cache.
    rw [hcached] at h
    cases h
    have hname : c.name = s.name := by simpa using List.find?_some hcached
    exact ⟨hname, hclosed, hname ▸ hcached⟩
  | none =>
    -- Compiled now.
    rw [hcached] at h
    simp only at h
    split at h
    · cases h
    · split at h
      · cases h
      · cases h
        refine ⟨rfl, hclosed, ?_⟩
        simp only [module?] at hcached ⊢
        rw [List.find?_append, hcached]
        simp

/-! ### Instances -/

/-- When nothing stands in the way, an instance is launched with the capabilities granted. -/
theorem instantiate_eq_launch {e : Engine} (b : Bridge) {r : InstanceRequest} {c : Compiled}
    {cs : List Capability} (hc : e.module? r.module = some c) (hhosted : r.hosted = true)
    (hfree : HostFunction.moduleName ∉ e.registered) (hgranted : r.granted = .ok cs)
    (hopen : e.closed = false) :
    ∃ begun, e.instantiate b r =
      let l := (e.identify r.id).1.launch b r (e.identify r.id).2 c cs
      (l.1, l.2.1, l.2.2.1, begun :: l.2.2.2) := by
  obtain ⟨generated, hgenerated⟩ := e.identify_fst r.id
  have hfree' : ((e.identify r.id).1.registered.contains HostFunction.moduleName) = false := by
    simpa [hgenerated] using hfree
  have hopen' : (e.identify r.id).1.closed = false := by
    simpa [hgenerated] using hopen
  simp only [instantiate, hc, hhosted, hfree', hgranted, hopen', Bool.not_true, Bool.false_eq_true,
    if_false]
  exact ⟨_, rfl⟩

/-- What an instance takes besides host functions: its other imports are provided, its name is free, its
data fits into its memory, and its start functions succeed. -/
structure Ready (e : Engine) (b : Bridge) (id : String) (c : Compiled) (start : List String) :
    Prop where
  elsewhere : ∀ i ∈ c.module.imports, i.module ≠ HostFunction.moduleName → e.provides [] i = true
  unused : id ≠ HostFunction.moduleName ∧ id ∉ e.registered
  started : ∃ heap memory, giveMemory e.heap c.module = some (heap, memory) ∧
    (runStart c.module start (machine { e with heap } b memory none)).1 = none

theorem missing?_eq_none {e : Engine} {offered : List String} {code : Module}
    (hhost : ∀ i ∈ code.imports, i.module = HostFunction.moduleName → i.name ∈ offered) :
    e.missing? offered code = none ↔
      ∀ i ∈ code.imports, i.module ≠ HostFunction.moduleName → e.provides [] i = true := by
  simp only [missing?, List.find?_eq_none, Bool.not_eq_true, Bool.not_eq_false']
  refine forall₂_congr fun i hi => ?_
  by_cases hmodule : i.module = HostFunction.moduleName
  · simp [provides, hmodule, hhost i hi hmodule]
  · simp [provides, hmodule]

theorem bringUp_ok_iff (e : Engine) (b : Bridge) (id : String) (offered : List String)
    (c : Compiled) (start : List String) :
    (∃ i, (e.bringUp b id offered c start).2.2.1 = .ok i) ↔
      e.missing? offered c.module = none ∧ (id ≠ HostFunction.moduleName ∧ id ∉ e.registered) ∧
      ∃ heap memory, giveMemory e.heap c.module = some (heap, memory) ∧
        (runStart c.module start (machine { e with heap } b memory none)).1 = none := by
  unfold bringUp
  cases e.missing? offered c.module with
  | some i => simp
  | none =>
    cases giveMemory e.heap c.module with
    | none => simp
    | some p =>
      obtain ⟨heap, memory⟩ := p
      simp only
      split_ifs with hname
      · simp only [Bool.or_eq_true, decide_eq_true_eq, List.contains_iff_mem] at hname
        refine iff_of_false (by simp) ?_
        rintro ⟨-, ⟨hne, hfree⟩, -⟩
        exact hname.elim hne hfree
      · simp only [Bool.or_eq_true, decide_eq_true_eq, List.contains_iff_mem, not_or] at hname
        rcases hrun : runStart c.module start (machine { e with heap } b memory none) with ⟨_ | f, m⟩
        · exact iff_of_true ⟨_, rfl⟩ ⟨trivial, hname, heap, memory, rfl, congrArg Prod.fst hrun⟩
        · refine iff_of_false (by simp) ?_
          rintro ⟨-, -, heap', memory', hmemory, hstarted⟩
          cases hmemory
          rw [hrun] at hstarted
          cases hstarted

/-- **A launch makes an instance** just if it is ready, when the host functions it imports are
offered. -/
theorem launch_ok_iff {e : Engine} {b : Bridge} {r : InstanceRequest} {id : String} {c : Compiled}
    {cs : List Capability} (hhost : ∀ i ∈ c.module.imports, i.module = HostFunction.moduleName →
      i.name ∈ Environment.names cs) :
    (∃ n, (e.launch b r id c cs).2.2.1 = .ok n) ↔ e.Ready b id c r.start := by
  have hlaunch : (∃ n, (e.launch b r id c cs).2.2.1 = .ok n) ↔
      ∃ i, (e.bringUp b id (Environment.names cs) c r.start).2.2.1 = .ok i := by
    unfold launch
    rcases e.bringUp b id (Environment.names cs) c r.start with ⟨e', b', f | i, log⟩ <;> simp
  rw [hlaunch, bringUp_ok_iff, missing?_eq_none hhost]
  exact ⟨fun ⟨helsewhere, hunused, hstarted⟩ => ⟨helsewhere, hunused, hstarted⟩,
    fun h => ⟨h.elsewhere, h.unused, h.started⟩⟩

/-- The instance that a launch makes has the host functions of the capabilities. -/
theorem host_of_launch {e : Engine} {b : Bridge} {r : InstanceRequest} {id : String} {c : Compiled}
    {cs : List Capability} {n : Nat} (h : (e.launch b r id c cs).2.2.1 = .ok n) :
    ∃ i, (e.launch b r id c cs).1.instances[n]? = some i ∧ i.compiled = c ∧
      i.host = Environment.names cs := by
  obtain ⟨_, _, _, _, _, _, hfail, -⟩ | ⟨i, _, _, _, _, hup, -, -, -, -, hcompiled, hhost⟩ :=
    e.bringUp_cases b id (Environment.names cs) c r.start
  · simp only [launch, hfail] at h
    cases h
  · simp only [launch, hup] at h ⊢
    cases h
    exact ⟨i, by simp [enrol], hcompiled, hhost⟩

end Engine

namespace Guest

theorem granted_request {g : Guest} (hsome : g.manifest.capabilities ≠ []) :
    g.request.granted = .ok g.manifest.capabilities := by
  have hnames : (g.manifest.capabilities.map Capability.name).isEmpty = false := by
    simpa using hsome
  simp only [InstanceRequest.granted, request, hnames, Bool.false_eq_true, if_false]
  exact Capability.ofNames_map_name _

/-- In an engine and with a bridge, the guest gets the functions of some capabilities and no
others. -/
structure Runs (g : Guest) (cs : List Capability) (e : Engine) (b : Bridge) : Prop where
  /-- An instance is launched with a host module made of these capabilities. -/
  launched : ∃ begun, e.instantiate b g.request =
    let l := (e.identify "").1.launch b g.request (e.identify "").2 g.compiled cs
    (l.1, l.2.1, l.2.2.1, begun :: l.2.2.2)
  /-- The host module exports the names whose capability is one of these. -/
  exported : ∀ name, name ∈ Environment.names cs ↔
    ∃ c ∈ cs, HostFunction.capabilityOf? name = some c
  /-- Every host function that the guest imports is exported. -/
  imported : ∀ i ∈ g.compiled.module.imports, i.module = HostFunction.moduleName →
    i.name ∈ Environment.names cs
  /-- An instance comes of it just if all else is ready. -/
  made : (∃ n, (e.instantiate b g.request).2.2.1 = .ok n) ↔
    (e.identify "").1.Ready b (e.identify "").2 g.compiled g.manifest.start
  /-- An instance that comes of it has this host module. -/
  hosted : ∀ n, (e.instantiate b g.request).2.2.1 = .ok n →
    ∃ i, (e.instantiate b g.request).1.instances[n]? = some i ∧ i.compiled = g.compiled ∧
      i.host = Environment.names cs

theorem runs_of_admits {m : Manifest} {c : Compiled} {e : Engine} (b : Bridge)
    (hsome : m.capabilities ≠ []) (hadmits : m.Admits c.module.imports)
    (hc : e.module? c.name = some c) (hfree : HostFunction.moduleName ∉ e.registered)
    (hopen : e.closed = false) : Runs ⟨m, c⟩ m.capabilities e b := by
  obtain ⟨begun, hlaunch⟩ := Engine.instantiate_eq_launch b (r := request ⟨m, c⟩) hc rfl hfree
    (granted_request hsome) hopen
  have himported : ∀ i ∈ c.module.imports, i.module = HostFunction.moduleName →
      i.name ∈ Environment.names m.capabilities :=
    fun i hi hmodule => Environment.mem_names.mpr (hadmits i hi hmodule)
  refine ⟨⟨begun, hlaunch⟩, fun _ => Environment.mem_names, himported, ?_, ?_⟩
  · rw [hlaunch]
    exact Engine.launch_ok_iff himported
  · intro n hn
    rw [hlaunch] at hn ⊢
    exact Engine.host_of_launch hn

/-- A load of a module under a manifest keeps the guest to the capabilities of the manifest. -/
structure Confined (loaded : Engine × Except Fault Guest × Journal) (m : Manifest) (c : Compiled) :
    Prop where
  /-- The guest is taken just when the manifest admits what the module imports. -/
  taken : (∃ g, loaded.2.1 = .ok g) ↔ m.Admits c.module.imports
  guest : ∀ g, loaded.2.1 = .ok g → g = ⟨m, c⟩
  /-- Whatever is done to the engine meanwhile, the guest runs with the capabilities of the manifest
  as soon as the host functions are free. -/
  runs : ∀ g, loaded.2.1 = .ok g → ∀ acts b,
    HostFunction.moduleName ∉ (loaded.1.after acts).registered →
    g.Runs m.capabilities (loaded.1.after acts) b

theorem confined_loadModule {e e' : Engine} {t : FileTree} {m : Manifest} {s : Source}
    {c : Compiled} {log : Journal} (hsome : m.capabilities ≠ [])
    (h : e.load t s = (e', .ok c, log)) : Confined (loadModule e t m s) m c := by
  obtain ⟨hengine, hguest⟩ := loadModule_of_load (m := m) h
  obtain ⟨-, hopen, hc⟩ := Engine.module?_of_load h
  refine ⟨?_, fun g hg => ((hguest g).mp hg).1, ?_⟩
  · simp only [hguest, exists_eq_left]
  · intro g hg acts b hfree
    obtain ⟨rfl, hadmits⟩ := (hguest g).mp hg
    rw [hengine] at hfree ⊢
    have hlast := e'.lasting_after acts
    exact runs_of_admits b hsome hadmits (hlast.module? hc) hfree (hlast.closed.trans hopen)

/-- **A guest reaches what it declares.**  The guest of a directory is taken just when every host
function it imports is known and of a declared capability; from then on the host module made for it
exports just the functions of the capabilities declared in the manifest file.  A guest that is a lone
module file is taken just when the host functions it imports are known, and it gets all there
are. -/
theorem guest_confined_to_capabilities (e : Engine) (t : FileTree) :
    (∀ dir m, Manifest.load t dir = .ok m →
      ∀ e' c log, e.load t (source m) = (e', .ok c, log) →
        Manifest.Declares t dir m.capabilities ∧ Confined (loadDirectory e t dir) m c) ∧
    (∀ path entry, t.stat path = .ok entry → entry.isDirectory = false →
      Path.ext path = moduleExtension →
      ∀ e' c log, e.load t (.file (Manifest.bare path).modulePath) = (e', .ok c, log) →
        Confined (load e t path) (Manifest.bare path) c ∧
        ((Manifest.bare path).Admits c.module.imports ↔ ∀ i ∈ c.module.imports,
          i.module = HostFunction.moduleName → (HostFunction.capabilityOf? i.name).isSome) ∧
        ∀ name, name ∈ Environment.names (Manifest.bare path).capabilities ↔
          (HostFunction.capabilityOf? name).isSome) := by
  have hall : ∀ name, (∃ c ∈ Capability.all, HostFunction.capabilityOf? name = some c) ↔
      (HostFunction.capabilityOf? name).isSome := by
    intro name
    simp [Capability.mem_all, Option.isSome_iff_exists]
  refine ⟨?_, ?_⟩
  · intro dir m hm e' c log hload
    obtain ⟨hsome, hdeclares⟩ := Manifest.load_capabilities hm
    have hconfined := confined_loadModule hsome hload
    refine ⟨hdeclares, ?_⟩
    simp only [loadDirectory, hm]
    exact ⟨hconfined.taken, hconfined.guest, hconfined.runs⟩
  · intro path entry hstat hfile hext e' c log hload
    have hsame : load e t path
        = loadModule e t (Manifest.bare path) (.file (Manifest.bare path).modulePath) := by
      unfold load
      rw [hstat]
      cases entry with
      | directory => cases hfile
      | file content => simp [hext]
      | fullDevice => simp [hext]
    refine ⟨?_, ?_, ?_⟩
    · rw [hsame]
      exact confined_loadModule (List.cons_ne_nil _ _) hload
    · exact forall₃_congr fun i _ _ => hall i.name
    · intro name
      rw [Environment.mem_names]
      exact hall name

theorem exists_ok_of_toOption_map {α β ε : Type} {x : Except ε α} {f : α → β} {y : β}
    (h : x.toOption.map f = some y) : ∃ a, x = .ok a ∧ f a = y := by
  cases x with
  | error f => cases h
  | ok a => exact ⟨a, rfl, Option.some.inj h⟩

/-- Start functions that a module does not have are passed over. -/
theorem runStart_of_missing {code : Module} {start : List String}
    (h : ∀ name ∈ start, code.function? name = none) (m : Machine) :
    Engine.runStart code start m = (none, m) := by
  induction start with
  | nil => rfl
  | cons name start ih =>
    obtain ⟨hname, hrest⟩ := List.forall_mem_cons.mp h
    simp only [Engine.runStart, hname]
    exact ih hrest

/-- A guest that declares sound twice and imports one function of it is taken.  An instance of it is
made, and the host module of the instance exports the two functions of sound and no other. -/
theorem sound_guest_gets_sound_only :
    let manifest := "name: g\nversion: '1'\nwasm: \x7bfile: g.wasm\x7d\ncapabilities: [sound, sound]"
    let t : FileTree :=
      { entries := [(["g"], .directory),
          (["g", "manifest.yaml"], .file (.bytes manifest.toUTF8.data)),
          (["g", "g.wasm"], .file (.module { imports := [⟨"env", "wasm_sound_play"⟩] }))] }
    let loaded := loadDirectory (Engine.new {} fun _ => "") t "/g"
    ∃ g, loaded.2.1 = .ok g ∧ g.manifest.capabilities = [.sound, .sound] ∧
      g.Runs [.sound, .sound] loaded.1 {} ∧
      ∃ n i, (loaded.1.instantiate {} g.request).2.2.1 = .ok n ∧
        (loaded.1.instantiate {} g.request).1.instances[n]? = some i ∧
        ∀ name, name ∈ i.host ↔ HostFunction.capabilityOf? name = some .sound := by
  intro manifest t loaded
  have hread : (Manifest.load t "/g").toOption.map (fun m => (m.capabilities, m.directory, m.file))
      = some ([.sound, .sound], "/g", "g.wasm") := by
    decide +kernel
  have hcompiled : ((Engine.new {} fun _ => "").load t
        (.inside "/g" "g.wasm" (Path.join "/g" "g.wasm"))).2.1.toOption.map
          (fun c => (c.module.imports, c.module.pages, c.module.exports.map Prod.fst))
      = some ([⟨"env", "wasm_sound_play"⟩], none, []) := by
    decide +kernel
  have hregistered : loaded.1.registered = [] := by decide +kernel
  have hid : (loaded.1.identify "").2 = "" := by decide +kernel
  -- From here on only these facts about the files matter.
  clear_value t
  obtain ⟨m, hm, hfields⟩ := exists_ok_of_toOption_map hread
  obtain ⟨hcapabilities, hdirectory, hfile⟩ : m.capabilities = [.sound, .sound] ∧
      m.directory = "/g" ∧ m.file = "g.wasm" := by
    simpa using hfields
  rw [← hdirectory, ← hfile] at hcompiled
  obtain ⟨c, hc, hparts⟩ := exists_ok_of_toOption_map hcompiled
  obtain ⟨himports, hpages, hexports⟩ : c.module.imports = [⟨"env", "wasm_sound_play"⟩] ∧
      c.module.pages = none ∧ c.module.exports = [] := by
    simpa using hparts
  obtain ⟨-, hconfined⟩ := (guest_confined_to_capabilities (Engine.new {} fun _ => "") t).1 "/g" m hm
    _ c _ (Prod.ext rfl (Prod.ext hc rfl))
  have hadmits : m.Admits c.module.imports := by
    rw [himports]
    intro i hi _
    obtain rfl := List.mem_singleton.mp hi
    exact ⟨.sound, by simp [hcapabilities], by decide⟩
  obtain ⟨g, hg⟩ := hconfined.taken.mpr hadmits
  have hguest := hconfined.guest g hg
  subst hguest
  have hruns := hconfined.runs _ hg [] {} (by simp [Engine.after, loaded, hregistered])
  rw [hcapabilities] at hruns
  have hready : (loaded.1.identify "").1.Ready {} (loaded.1.identify "").2 c m.start := by
    refine ⟨?_, ?_, ?_⟩
    · rw [himports]
      intro i hi hmodule
      obtain rfl := List.mem_singleton.mp hi
      exact absurd rfl hmodule
    · obtain ⟨generated, hidentified⟩ := loaded.1.identify_fst ""
      rw [hid, hidentified, hregistered]
      decide
    · refine ⟨_, none, by rw [Engine.giveMemory, hpages], ?_⟩
      rw [runStart_of_missing]
      intro name _
      simp [Module.function?, hexports]
  obtain ⟨n, hn⟩ := hruns.made.mpr hready
  obtain ⟨i, hi, -, hhost⟩ := hruns.hosted n hn
  refine ⟨_, hg, hcapabilities, hruns, n, i, hn, hi, fun name => ?_⟩
  rw [hhost]
  simpa using hruns.exported name

end Guest
end GuestHost
