import GuestHost.Engine
import Mathlib.Logic.Function.Basic
import Mathlib.Tactic.SplitIfs

/-! # What happens to an engine

An engine loads modules, makes instances of them, calls their functions and closes them, in any
order.  Every act comes with the surroundings it meets: the files there are and the bridge that the
guest talks to.

* **Acts** (`Engine.Act`).  `Engine.act` carries one out and `Engine.after` a list of them.
* **Happenings** (`Engine.Happening`).  An act makes an instance, or closes one, or neither.
  `Engine.history` lists what happened, oldest first; an instance is **live** when it was made and
  never closed (`History.Live`).
* **Steps** (`Engine.Step`).  All that an act can do to the names in use, the instances and the table
  of ids is one of four things (`step_act`).  The choices about the engine and the modules compiled
  so far last through every act (`Lasting`).
* **The roster** (`Engine.roster`).  The id of every instance and whether it was closed are what the
  history says (`Recorded`).  What a new engine has and every step keeps, the engine has after any
  acts (`after_induction`). -/

namespace GuestHost
namespace Engine

/-! ### Acts -/

/-- Something that is done to an engine. -/
inductive Act
  | load (files : FileTree) (s : Source)
  | instantiate (b : Bridge) (r : InstanceRequest)
  | call (b : Bridge) (n : Nat) (name : String)
  | close (n : Nat)

/-- Carries out an act. -/
def act (e : Engine) : Act → Engine
  | .load t s => (e.load t s).1
  | .instantiate b r => (e.instantiate b r).1
  | .call b n name => (e.call b n name).1
  | .close n => e.closeInstance n

/-- The engine after acts. -/
def after (e : Engine) : List Act → Engine
  | [] => e
  | a :: acts => (e.act a).after acts

/-- What can happen to instances. -/
inductive Happening
  /-- An instance was made under an id. -/
  | made (n : Nat) (id : String)
  /-- An instance was closed, maybe not for the first time. -/
  | closed (n : Nat) (id : String)
deriving DecidableEq

/-- Happenings in the order in which they came. -/
abbrev History := List Happening

/-- What an act makes happen. -/
def happenings (e : Engine) : Act → History
  | .instantiate b r =>
    match (e.instantiate b r).2.2.1 with
    | .ok n => [.made n (e.identify r.id).2]
    | .error _ => []
  | .close n =>
    match e.instances[n]? with
    | some i => [.closed n i.id]
    | none => []
  | _ => []

/-- What acts make happen, in order. -/
def history (e : Engine) : List Act → History
  | [] => []
  | a :: acts => e.happenings a ++ (e.act a).history acts

/-- The instance was made and never closed. -/
def History.Live (h : History) (n : Nat) : Prop :=
  (∃ id, .made n id ∈ h) ∧ ∀ id, .closed n id ∉ h

/-- The id of an instance and whether the host has closed it. -/
def roster (e : Engine) (n : Nat) : Option (String × Bool) :=
  (e.instances[n]?).map fun i => (i.id, i.released)

/-! ### Making instances -/

/-- An attempt to bring an instance up either fails and gives back nothing but a name that was in use,
or it succeeds under a free name. -/
theorem bringUp_cases (e : Engine) (b : Bridge) (id : String) (offered : List String) (c : Compiled)
    (start : List String) :
    (∃ f b' log heap output registered,
      bringUp e b id offered c start
        = ({ e with heap, output, registered }, b', .error f, log) ∧
      (registered = e.registered ∨
        id ∈ e.registered ∧ registered = e.registered.filter (· ≠ id))) ∨
    (∃ i b' log heap output,
      bringUp e b id offered c start = ({ e with heap, output }, b', .ok i, log) ∧
      id ≠ HostFunction.moduleName ∧ id ∉ e.registered ∧
      i.id = id ∧ i.released = false ∧ i.compiled = c ∧ i.host = offered) := by
  unfold bringUp
  split
  · exact .inl ⟨_, b, _, e.heap, e.output, e.registered, rfl, .inl rfl⟩
  · split
    · exact .inl ⟨_, b, _, e.heap, e.output, e.registered, rfl, .inl rfl⟩
    · rename_i heap memory _
      simp only
      split_ifs with hname
      · refine .inl ⟨_, b, _, heap, e.output, _, rfl, ?_⟩
        by_cases hid : id ∈ e.registered
        · exact .inr ⟨hid, rfl⟩
        · left
          apply List.filter_eq_self.mpr
          intro name hmem
          simp only [decide_eq_true_eq]
          rintro rfl
          exact hid hmem
      · simp only [Bool.or_eq_true, decide_eq_true_eq, List.contains_iff_mem, not_or] at hname
        rcases runStart c.module start (Engine.machine { e with heap } b memory none)
          with ⟨_ | f, m⟩
        · exact .inr ⟨_, _, _, _, _, rfl, hname.1, hname.2, rfl, rfl, rfl, rfl⟩
        · exact .inl ⟨_, _, _, m.heap, m.output, e.registered, rfl, .inl rfl⟩

theorem identify_fst (e : Engine) (id : String) :
    ∃ generated, (e.identify id).1 = { e with generated } := by
  unfold identify
  split_ifs
  · exact ⟨_, rfl⟩
  · exact ⟨e.generated, rfl⟩

/-- An attempt to make an instance either fails, and then the engine has lost at most a name in use
that the instance was to get, or an instance is taken up while the host functions are free. -/
theorem instantiate_cases (e : Engine) (b : Bridge) (r : InstanceRequest) :
    (∃ f b' log heap output generated registered,
      e.instantiate b r = ({ e with heap, output, generated, registered }, b', .error f, log) ∧
      (registered = e.registered ∨
        HostFunction.moduleName ∉ e.registered ∧ (e.identify r.id).2 ∈ e.registered ∧
          registered = e.registered.filter (· ≠ (e.identify r.id).2))) ∨
    (∃ i b' log heap output generated,
      e.instantiate b r
        = (enrol { e with heap, output, generated } i, b', .ok e.instances.size, log) ∧
      HostFunction.moduleName ∉ e.registered ∧ (e.identify r.id).2 ≠ HostFunction.moduleName ∧
      (e.identify r.id).2 ∉ e.registered ∧ i.id = (e.identify r.id).2 ∧ i.released = false) := by
  obtain ⟨generated, hgenerated⟩ := e.identify_fst r.id
  rcases hidentify : e.identify r.id with ⟨e', id⟩
  rw [hidentify] at hgenerated
  obtain rfl : e' = { e with generated } := hgenerated
  unfold instantiate
  rw [hidentify]
  split
  · exact .inl ⟨_, b, _, e.heap, e.output, e.generated, e.registered, rfl, .inl rfl⟩
  · rename_i c _
    split_ifs with hhosted
    · exact .inl ⟨_, b, _, e.heap, e.output, e.generated, e.registered, rfl, .inl rfl⟩
    · simp only
      by_cases henv : HostFunction.moduleName ∈ e.registered
      · rw [if_pos (List.contains_iff_mem.mpr henv)]
        exact .inl ⟨_, b, _, e.heap, e.output, generated, e.registered, rfl, .inl rfl⟩
      · rw [if_neg (mt List.contains_iff_mem.mp henv)]
        rcases r.granted with n | cs
        · exact .inl ⟨_, b, _, e.heap, e.output, generated, e.registered, rfl, .inl rfl⟩
        · simp only
          split_ifs with hclosed
          · exact .inl ⟨_, b, _, e.heap, e.output, generated, e.registered, rfl, .inl rfl⟩
          · simp only [launch]
            obtain ⟨f, b', log, heap, output, registered, hup, hnames⟩ |
              ⟨i, b', log, heap, output, hup, hne, hfree, hid, hreleased, -, -⟩ :=
              bringUp_cases { e with generated } b id (Environment.names cs) c r.start
            · rw [hup]
              refine .inl ⟨_, b', _, heap, output, generated, registered, rfl, ?_⟩
              exact hnames.imp_right fun hin => ⟨henv, hin⟩
            · rw [hup]
              exact .inr ⟨i, b', _, heap, output, generated, rfl, henv, hne, hfree, hid, hreleased⟩

/-! ### Closing and calling -/

theorem roster_modify (e : Engine) (n : Nat) (i : Instance) (f : Instance → Instance)
    (hi : e.instances[n]? = some i) :
    roster { e with instances := e.instances.modify n f }
      = Function.update e.roster n (some ((f i).id, (f i).released)) := by
  funext m
  by_cases hm : m = n
  · subst hm
    simp [roster, Array.getElem?_modify, hi]
  · simp [roster, Array.getElem?_modify, hm, Ne.symm hm]

theorem roster_of_getElem? {e : Engine} {n : Nat} {i : Instance} (hi : e.instances[n]? = some i) :
    e.roster n = some (i.id, i.released) := by
  simp [roster, hi]

theorem roster_size (e : Engine) : e.roster e.instances.size = none := by
  simp [roster]

theorem roster_noteClosing (e : Engine) (n : Nat) (i : Instance) (closing : Option Closing)
    (hi : e.instances[n]? = some i) : (e.noteClosing n i closing).roster = e.roster := by
  unfold noteClosing
  split_ifs
  · rfl
  · calc
      _ = Function.update e.roster n (some (i.id, i.released)) := e.roster_modify n i _ hi
      _ = e.roster := by rw [← roster_of_getElem? hi, Function.update_eq_self]

/-- A call leaves the engine as it was, or puts back what the guest's run changed. -/
theorem call_cases (e : Engine) (b : Bridge) (n : Nat) (name : String) :
    (e.call b n name).1 = e ∨
    ∃ i heap output closing, e.instances[n]? = some i ∧
      (e.call b n name).1 = noteClosing { e with heap, output } n i closing := by
  unfold call
  split
  · exact .inl rfl
  · rename_i i hi
    split
    · exact .inl rfl
    · rename_i f _
      rcases f.run (e.machine b i.memory i.closing) with ⟨r, m⟩
      exact .inr ⟨i, m.heap, m.output, (settle e.config.timeout name m.closing r).2, hi, rfl⟩

theorem load_cases (e : Engine) (t : FileTree) (s : Source) :
    ∃ more, (e.load t s).1 = { e with modules := e.modules ++ more } := by
  have same : e = { e with modules := e.modules ++ [] } := by rw [List.append_nil]
  unfold load
  simp only
  repeat' split
  all_goals first | exact ⟨_, rfl⟩ | exact ⟨[], same⟩

/-! ### Steps -/

/-- All that an act can do to the names in use, the instances and the table of ids. -/
inductive Step (e e' : Engine) : History → Prop
  /-- Nothing is made or closed, and the host functions stay in use if they are. -/
  | still (roster : e'.roster = e.roster) (tracked : e'.tracked = e.tracked)
      (names : e'.registered ⊆ e.registered)
      (environment : HostFunction.moduleName ∈ e.registered →
        HostFunction.moduleName ∈ e'.registered) :
      Step e e' []
  /-- An instance is made while the host functions are free. -/
  | made (id : String) (free : HostFunction.moduleName ∉ e.registered)
      (named : id ≠ HostFunction.moduleName)
      (roster : e'.roster = Function.update e.roster e.instances.size (some (id, false)))
      (tracked : e'.tracked = (id, e.instances.size) :: e.tracked.filter (·.1 ≠ id))
      (names : e'.registered ⊆ HostFunction.moduleName :: id :: e.registered)
      (environment : HostFunction.moduleName ∈ e'.registered) :
      Step e e' [.made e.instances.size id]
  /-- An instance is closed for the first time and gives its names back. -/
  | closed (n : Nat) (id : String) (opened : e.roster n = some (id, false))
      (roster : e'.roster = Function.update e.roster n (some (id, true)))
      (tracked : e'.tracked = e.tracked.filter (·.1 ≠ id))
      (names : e'.registered
        = e.registered.filter fun name => name ≠ HostFunction.moduleName && name ≠ id) :
      Step e e' [.closed n id]
  /-- An instance is closed once more: only the table of ids can change. -/
  | again (n : Nat) (id : String) (released : e.roster n = some (id, true))
      (roster : e'.roster = e.roster) (tracked : e'.tracked = e.tracked.filter (·.1 ≠ id))
      (names : e'.registered = e.registered) :
      Step e e' [.closed n id]

theorem step_close (e : Engine) (n : Nat) :
    Step e (e.closeInstance n) (e.happenings (.close n)) := by
  simp only [closeInstance, happenings]
  cases hi : e.instances[n]? with
  | none => exact .still rfl rfl (List.Subset.refl _) id
  | some i =>
    have hroster := roster_of_getElem? hi
    simp only
    split_ifs with hreleased
    · rw [hreleased] at hroster
      exact .again n i.id hroster rfl rfl rfl
    · rw [Bool.not_eq_true] at hreleased
      rw [hreleased] at hroster
      exact .closed n i.id hroster (e.roster_modify n i Instance.shut hi) rfl rfl

theorem step_instantiate (e : Engine) (b : Bridge) (r : InstanceRequest) :
    Step e (e.instantiate b r).1 (e.happenings (.instantiate b r)) := by
  obtain ⟨f, b', log, heap, output, generated, registered, h, hnames⟩ |
    ⟨i, b', log, heap, output, generated, h, hfree, hne, hid, heq, hreleased⟩ :=
    e.instantiate_cases b r
  · simp only [happenings, h]
    obtain rfl | ⟨henv, -, rfl⟩ := hnames
    · exact .still rfl rfl (List.Subset.refl _) id
    · exact .still rfl rfl List.filter_sublist.subset fun henv' => absurd henv' henv
  · simp only [happenings, h, ← heq]
    refine .made i.id hfree (heq ▸ hne) ?_ rfl ?_ List.mem_cons_self
    · funext n
      by_cases hn : n = e.instances.size
      · subst hn
        simp [roster, enrol, hreleased]
      · simp [roster, enrol, hn, Array.getElem?_push]
    · simp only [enrol]
      split_ifs <;> grind

/-- No instance has the name of the host functions. -/
def Named (e : Engine) : Prop :=
  ∀ n id released, e.roster n = some (id, released) → id ≠ HostFunction.moduleName

theorem Named.update {e e' : Engine} (hnamed : e.Named) {n : Nat} {id : String} {released : Bool}
    (roster : e'.roster = Function.update e.roster n (some (id, released)))
    (hid : id ≠ HostFunction.moduleName) : e'.Named := by
  intro m id' released' hm
  rw [roster] at hm
  by_cases hmn : m = n
  · subst hmn
    simp only [Function.update_self, Option.some.injEq, Prod.mk.injEq] at hm
    exact hm.1 ▸ hid
  · rw [Function.update_of_ne hmn] at hm
    exact hnamed m id' released' hm

theorem step_call (e : Engine) (b : Bridge) (n : Nat) (name : String) (hnamed : e.Named) :
    Step e (e.call b n name).1 [] := by
  obtain h | ⟨i, heap, output, closing, hi, h⟩ := e.call_cases b n name
  · rw [h]
    exact .still rfl rfl (List.Subset.refl _) id
  · rw [h]
    refine .still (roster_noteClosing _ n i closing hi) ?_ ?_ ?_
    all_goals
      unfold noteClosing
      split_ifs
    · rfl
    · rfl
    · exact List.Subset.refl _
    · exact List.filter_sublist.subset
    · exact id
    · intro henv
      have hne := hnamed n i.id i.released (roster_of_getElem? hi)
      exact List.mem_filter.mpr ⟨henv, by simpa using hne.symm⟩

theorem step_act (e : Engine) (a : Act) (hnamed : e.Named) :
    Step e (e.act a) (e.happenings a) := by
  cases a with
  | load t s =>
    obtain ⟨more, h⟩ := e.load_cases t s
    simp only [act, h]
    exact .still rfl rfl (List.Subset.refl _) id
  | instantiate b r => exact e.step_instantiate b r
  | call b n name => exact e.step_call b n name hnamed
  | close n => exact e.step_close n

/-! ### What lasts -/

/-- What no act changes: the choices about the engine, whether it is closed, and the modules that
were compiled. -/
structure Lasting (e e' : Engine) : Prop where
  config : e'.config = e.config
  closed : e'.closed = e.closed
  modules : e.modules <+: e'.modules

theorem lasting_act (e : Engine) (a : Act) : Lasting e (e.act a) := by
  cases a with
  | load t s =>
    obtain ⟨more, h⟩ := e.load_cases t s
    simp only [act, h]
    exact ⟨rfl, rfl, List.prefix_append _ _⟩
  | instantiate b r =>
    obtain ⟨f, b', log, heap, output, generated, registered, h, -⟩ |
      ⟨i, b', log, heap, output, generated, h, -⟩ := e.instantiate_cases b r
    all_goals
      simp only [act, h]
      exact ⟨rfl, rfl, List.prefix_rfl⟩
  | call b n name =>
    obtain h | ⟨i, heap, output, closing, -, h⟩ := e.call_cases b n name
    · simp only [act, h]
      exact ⟨rfl, rfl, List.prefix_rfl⟩
    · simp only [act, h, noteClosing]
      split_ifs
      all_goals exact ⟨rfl, rfl, List.prefix_rfl⟩
  | close n =>
    simp only [act, closeInstance]
    split
    · exact ⟨rfl, rfl, List.prefix_rfl⟩
    · split_ifs
      all_goals exact ⟨rfl, rfl, List.prefix_rfl⟩

theorem lasting_after (e : Engine) (acts : List Act) : Lasting e (e.after acts) := by
  induction acts generalizing e with
  | nil => exact ⟨rfl, rfl, List.prefix_rfl⟩
  | cons a acts ih =>
    have first := e.lasting_act a
    have rest := ih (e.act a)
    exact ⟨rest.config.trans first.config, rest.closed.trans first.closed,
      first.modules.trans rest.modules⟩

/-- A module that was compiled is found under its name ever after. -/
theorem Lasting.module? {e e' : Engine} (hlast : Lasting e e') {name : String} {c : Compiled}
    (hc : e.module? name = some c) : e'.module? name = some c := by
  obtain ⟨more, hmore⟩ := hlast.modules
  simp only [Engine.module?] at hc ⊢
  rw [← hmore, List.find?_append, hc, Option.some_or]

/-! ### The history and the roster -/

/-- The instances are as the history says. -/
structure Recorded (e : Engine) (h : History) : Prop where
  /-- The instances are those that were made, each under the id it was made under. -/
  made : ∀ n id, .made n id ∈ h ↔ ∃ released, e.roster n = some (id, released)
  /-- The closed ones are those that were closed. -/
  closed : ∀ n id, .closed n id ∈ h ↔ e.roster n = some (id, true)
  named : e.Named

theorem Recorded.live_iff {e : Engine} {h : History} (hrec : Recorded e h) (n : Nat) :
    h.Live n ↔ ∃ id, e.roster n = some (id, false) := by
  simp only [History.Live, hrec.made, hrec.closed]
  constructor
  · rintro ⟨⟨id, released, hn⟩, hopen⟩
    cases released with
    | false => exact ⟨id, hn⟩
    | true => exact absurd hn (hopen id)
  · rintro ⟨id, hn⟩
    simp [hn]

theorem recorded_new (c : EngineConfig) (supply : Nat → String) :
    Recorded (new c supply) [] := by
  have hroster : ∀ n, (new c supply).roster n = none := by
    intro n
    simp [roster, new]
  refine ⟨?_, ?_, ?_⟩
  · simp [hroster]
  · simp [hroster]
  · simp [Named, hroster]

theorem Recorded.step {e e' : Engine} {h more : History} (hrec : Recorded e h)
    (hstep : Step e e' more) : Recorded e' (h ++ more) := by
  cases hstep with
  | still roster tracked names environment =>
    rw [List.append_nil]
    exact ⟨by simpa [roster] using hrec.made, by simpa [roster] using hrec.closed,
      by simpa [Named, roster] using hrec.named⟩
  | made id free named roster tracked names environment =>
    have hnone := e.roster_size
    refine ⟨?_, ?_, ?_⟩
    · intro n id'
      rw [List.mem_append, hrec.made, roster]
      by_cases hn : n = e.instances.size
      · subst hn
        simp [hnone, eq_comm]
      · simp [hn]
    · intro n id'
      rw [List.mem_append, hrec.closed, roster]
      by_cases hn : n = e.instances.size
      · subst hn
        simp [hnone]
      · simp [hn]
    · exact hrec.named.update roster named
  | closed m id opened roster tracked names =>
    refine ⟨?_, ?_, ?_⟩
    · intro n id'
      rw [List.mem_append, hrec.made, roster]
      by_cases hn : n = m
      · subst hn
        simp [opened]
      · simp [hn]
    · intro n id'
      rw [List.mem_append, hrec.closed, roster]
      by_cases hn : n = m
      · subst hn
        simp [opened, eq_comm]
      · simp [hn]
    · exact hrec.named.update roster (hrec.named m id false opened)
  | again m id released roster tracked names =>
    refine ⟨?_, ?_, by simpa [Named, roster] using hrec.named⟩
    · simpa [roster] using hrec.made
    · intro n id'
      rw [List.mem_append, hrec.closed, roster]
      constructor
      · rintro (hn | hn)
        · exact hn
        · obtain ⟨rfl, rfl⟩ : n = m ∧ id' = id := by simpa using hn
          exact released
      · exact .inl

/-- What a new engine has and every step keeps, the engine has after any acts. -/
theorem after_induction {P : Engine → History → Prop} (c : EngineConfig) (supply : Nat → String)
    (hnew : P (new c supply) [])
    (hstep : ∀ {e e' : Engine} {h more : History}, Recorded e h → Step e e' more →
      e'.config = e.config → P e h → P e' (h ++ more)) (acts : List Act) :
    Recorded ((new c supply).after acts) ((new c supply).history acts) ∧
      P ((new c supply).after acts) ((new c supply).history acts) := by
  have run : ∀ acts {e h}, Recorded e h → P e h →
      Recorded (e.after acts) (h ++ e.history acts) ∧ P (e.after acts) (h ++ e.history acts) := by
    intro acts
    induction acts with
    | nil =>
      intro e h hrec hp
      simpa [after, history] using And.intro hrec hp
    | cons a acts ih =>
      intro e h hrec hp
      have next := e.step_act a hrec.named
      simp only [after, history, ← List.append_assoc]
      exact ih (hrec.step next) (hstep hrec next (e.lasting_act a).config hp)
  simpa using run acts (recorded_new c supply) hnew

end Engine
end GuestHost
