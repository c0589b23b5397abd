import GuestHost.Catalog
import GuestHost.Proofs.Engine.History

/-! # One instance after the other

A host that runs one guest at a time uses its engine in turns.  Between two turns the engine is idle
(`Engine.Idle`): nobody has the host functions and the table of ids is empty.  During a turn it serves
one instance (`Engine.Serving`).

* **Looking for a guest** compiles modules and does nothing else to the engine
  (`Catalog.loads_resolve`); what fails there is never the making of an instance.
* **Beginning a turn** either fails and leaves the engine idle, or the engine serves the new instance
  (`Engine.Idle.of_error`, `Engine.Idle.serving_of_ok`).
* **Calls** go on serving (`Engine.Serving.call`), and closing the instance ends the turn, whatever
  became of the guest meanwhile (`Engine.Serving.idle_closeInstance`). -/

namespace GuestHost
namespace Engine

/-! ### Looking for a guest -/

/-- All that can have changed is that there are more modules. -/
def Loaded (e e' : Engine) : Prop := ∃ more, e' = { e with modules := e.modules ++ more }

theorem Loaded.refl (e : Engine) : Loaded e e := ⟨[], by rw [List.append_nil]⟩

theorem Loaded.trans {e e' e'' : Engine} (h : Loaded e e') (h' : Loaded e' e'') : Loaded e e'' := by
  obtain ⟨more, rfl⟩ := h
  obtain ⟨more', rfl⟩ := h'
  exact ⟨more ++ more', by rw [List.append_assoc]⟩

/-- What looking for something comes to: modules may have been compiled, and a failure is not one of
making an instance. -/
structure Loads (e : Engine) {α : Type} (e' : Engine) (r : Except Fault α) : Prop where
  engine : Loaded e e'
  fault : ∀ m id why, r ≠ .error (.instantiation m id why)

end Engine

theorem Manifest.load_ne_instantiation (t : FileTree) (directory m id : String) (why : Fault) :
    load t directory ≠ .error (.instantiation m id why) := by
  unfold load check
  repeat' split
  all_goals simp

namespace Guest

theorem loads_loadModule (e : Engine) (t : FileTree) (m : Manifest) (s : Source) :
    e.Loads (loadModule e t m s).1 (loadModule e t m s).2.1 := by
  have hload : e.Loaded (e.load t s).1 := e.load_cases t s
  unfold loadModule
  simp only
  split
  · rename_i e' f log h
    rw [h] at hload
    exact ⟨hload, by simp⟩
  · rename_i e' c log h
    rw [h] at hload
    split
    · exact ⟨hload, by simp⟩
    · exact ⟨hload, by simp⟩

theorem loads_loadDirectory (e : Engine) (t : FileTree) (dir : String) :
    e.Loads (loadDirectory e t dir).1 (loadDirectory e t dir).2.1 := by
  unfold loadDirectory
  simp only
  split
  · rename_i f h
    refine ⟨.refl e, fun m id why hf => Manifest.load_ne_instantiation t dir m id why ?_⟩
    rw [h, Except.error.inj hf]
  · exact loads_loadModule e t _ _

theorem loads_load (e : Engine) (t : FileTree) (path : String) :
    e.Loads (load e t path).1 (load e t path).2.1 := by
  unfold load
  split
  · exact ⟨.refl e, by simp⟩
  · exact loads_loadDirectory e t path
  · split_ifs
    · exact ⟨.refl e, by simp⟩
    · exact loads_loadModule e t _ _

theorem loaded_visit (t : FileTree) (s : Findings) (dir : String) :
    s.engine.Loaded (visit t s dir).engine := by
  have hload := (loads_loadDirectory s.engine t dir).engine
  unfold visit
  split
  all_goals
    rename_i h
    rw [h] at hload
    exact hload

theorem loaded_foldl_visit (t : FileTree) (dirs : List String) (s : Findings) :
    s.engine.Loaded (dirs.foldl (visit t) s).engine := by
  induction dirs generalizing s with
  | nil => exact .refl _
  | cons dir dirs ih => exact (loaded_visit t s dir).trans (ih _)

theorem loads_discover (e : Engine) (t : FileTree) (base : String) :
    e.Loads (discover e t base).1 (discover e t base).2.1 := by
  unfold discover
  simp only
  split
  · exact ⟨.refl e, by simp⟩
  · exact ⟨.refl e, by simp⟩
  · exact ⟨loaded_foldl_visit t _ _, by simp⟩

end Guest

namespace Catalog

theorem loads_loadAll (c : Catalog) (e : Engine) (t : FileTree) :
    e.Loaded (c.loadAll e t).2.1 ∧
      ∀ m id why, (c.loadAll e t).2.2.1 ≠ some (.instantiation m id why) := by
  unfold loadAll
  split_ifs
  · exact ⟨.refl e, by simp⟩
  · have hfound := Guest.loads_discover e t c.directory
    split
    · rename_i e' f log h
      rw [h] at hfound
      exact ⟨hfound.engine, fun m id why hf => hfound.fault m id why (by rw [Option.some.inj hf])⟩
    · rename_i e' guests log h
      rw [h] at hfound
      exact ⟨hfound.engine, by simp⟩

/-- **Finding the guest of a target** compiles modules at most. -/
theorem loads_resolve (c : Catalog) (e : Engine) (t : FileTree) (target : String) :
    e.Loads (c.resolve e t target).2.1 (c.resolve e t target).2.2.1 := by
  unfold resolve
  split_ifs
  · exact Guest.loads_load e t target
  · obtain ⟨hengine, hfault⟩ := c.loads_loadAll e t
    split
    · rename_i c' e' f log h
      rw [h] at hengine hfault
      exact ⟨hengine, fun m id why hf => hfault m id why (by rw [Except.error.inj hf])⟩
    · rename_i c' e' log h
      rw [h] at hengine
      split <;> exact ⟨hengine, by simp⟩

end Catalog

namespace Engine

/-! ### Turns -/

/-- Nobody has the host functions, and no instance is tracked. -/
structure Idle (e : Engine) : Prop where
  free : HostFunction.moduleName ∉ e.registered
  untracked : e.tracked = []

/-- One instance is tracked, and the host has not closed it. -/
def Serving (e : Engine) (n : Nat) : Prop :=
  ∃ id, e.roster n = some (id, false) ∧ e.tracked = [(id, n)]

theorem idle_of_start {c : EngineConfig} {supply : Nat → String} {t t' : FileTree} {e : Engine}
    {log : Journal} (h : start c supply t = (t', .ok e, log)) : e.Idle := by
  unfold start at h
  split at h
  · cases h
  · cases h
    refine ⟨?_, rfl⟩
    simp only [new]
    split_ifs <;> decide

theorem Idle.loaded {e e' : Engine} (h : e.Idle) (hload : e.Loaded e') : e'.Idle := by
  obtain ⟨more, rfl⟩ := hload
  exact ⟨h.free, h.untracked⟩

/-- **An instance that could not be made** leaves the engine idle, however far it came. -/
theorem Idle.of_error {e e' : Engine} (h : e.Idle) {b b' : Bridge} {r : InstanceRequest} {f : Fault}
    {log : Journal} (hmade : e.instantiate b r = (e', b', .error f, log)) : e'.Idle := by
  obtain ⟨_, _, _, heap, output, generated, registered, hcase, hnames⟩ |
    ⟨_, _, _, _, _, _, hcase, -⟩ := e.instantiate_cases b r
  · rw [hcase] at hmade
    cases hmade
    refine ⟨?_, h.untracked⟩
    obtain rfl | ⟨hfree, -, rfl⟩ := hnames
    · exact h.free
    · exact fun hin => hfree (List.mem_filter.mp hin).1
  · rw [hcase] at hmade
    cases hmade

/-- **An instance that was made** is the one that the engine serves. -/
theorem Idle.serving_of_ok {e e' : Engine} (h : e.Idle) {b b' : Bridge} {r : InstanceRequest}
    {n : Nat} {log : Journal} (hmade : e.instantiate b r = (e', b', .ok n, log)) : e'.Serving n := by
  obtain ⟨_, _, _, _, _, _, _, hcase, -⟩ |
    ⟨i, _, _, heap, output, generated, hcase, -, -, -, -, hreleased⟩ := e.instantiate_cases b r
  · rw [hcase] at hmade
    cases hmade
  · rw [hcase] at hmade
    cases hmade
    refine ⟨i.id, ?_, ?_⟩
    · simp [roster, enrol, hreleased]
    · simp [enrol, h.untracked]

/-- **A call** goes on serving the instance, also when it ends the guest. -/
theorem Serving.call {e : Engine} {n : Nat} (h : e.Serving n) (b : Bridge) (name : String) :
    (e.call b n name).1.Serving n := by
  obtain ⟨id, hroster, htracked⟩ := h
  obtain hcase | ⟨i, heap, output, closing, hi, hcase⟩ := e.call_cases b n name
  · rw [hcase]
    exact ⟨id, hroster, htracked⟩
  · rw [hcase]
    refine ⟨id, ?_, ?_⟩
    · rw [roster_noteClosing { e with heap, output } n i closing hi]
      exact hroster
    · unfold noteClosing
      split_ifs <;> exact htracked

/-- **Closing the instance** ends the turn. -/
theorem Serving.idle_closeInstance {e : Engine} {n : Nat} (h : e.Serving n) :
    (e.closeInstance n).Idle := by
  obtain ⟨id, hroster, htracked⟩ := h
  obtain ⟨i, hi, hpair⟩ := Option.map_eq_some_iff.mp hroster
  obtain ⟨rfl, hreleased⟩ := Prod.mk.inj hpair
  unfold closeInstance
  rw [hi]
  simp only [hreleased, Bool.false_eq_true, if_false]
  refine ⟨?_, ?_⟩
  · simp
  · simp [htracked]

end Engine
end GuestHost
