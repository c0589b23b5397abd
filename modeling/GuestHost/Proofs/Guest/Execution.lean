import GuestHost.Proofs.Bridge.Polling
import GuestHost.Proofs.Engine.History

/-! # What a guest can do to its bridge

A guest works on its bridge by calling functions of the host, and in no other way.  So whatever every
call on a bridge keeps, the whole run of a guest keeps.

* **Computations** (`Exec.Keeps`).  A computation keeps a property of the bridge, and when it is
  refused the refusal is one that the engine broke off.
* **Functions.**  Calls of the host and of the system interface keep what every call on a bridge keeps
  (`HostFunction.keeps_run`, `SystemFunction.keeps_run`), and so do instructions (`Instr.keeps_run`)
  and whole functions (`Function.keeps_run`).
* **Instances.**  The same holds of making an instance and of calling it
  (`Engine.keeps_instantiate`, `Engine.keeps_call`). -/

namespace GuestHost

/-- Every call on a bridge keeps the property. -/
def Bridge.Lasting (P : Bridge → Prop) : Prop := ∀ b h c, P b → P (Bridge.act (b, h) c).1

/-! ### Computations -/

namespace Exec

/-- The computation keeps a property of the bridge; when it is refused, the engine broke it off. -/
structure Keeps (P : Bridge → Prop) {α : Type} (x : Exec α) : Prop where
  bridge : ∀ m, P m.bridge → P (x m).2.bridge
  refused : ∀ m why, (x m).1 = .error (.refused why) → ∃ cause tail, why = .trailed cause tail

variable {P : Bridge → Prop} {α β : Type}

/-- A computation that leaves the bridge alone keeps all properties of it. -/
theorem Keeps.of_bridge_eq {x : Exec α} (hbridge : ∀ m, (x m).2.bridge = m.bridge)
    (hrefused : ∀ m why, (x m).1 = .error (.refused why) → ∃ cause tail, why = .trailed cause tail) :
    Keeps P x :=
  ⟨fun m hm => (hbridge m).symm ▸ hm, hrefused⟩

theorem Keeps.pure (a : α) : Keeps P (Pure.pure a : Exec α) :=
  .of_bridge_eq (fun _ => rfl) fun _ _ h => by cases h

theorem Keeps.stop {e : Ending} (he : ∀ why, e ≠ .refused why) : Keeps P (Exec.stop e : Exec α) :=
  .of_bridge_eq (fun _ => rfl) fun _ why h => absurd (Except.error.inj h) (he why)

theorem Keeps.bind {x : Exec α} {f : α → Exec β} (hx : Keeps P x) (hf : ∀ a, Keeps P (f a)) :
    Keeps P (x >>= f) := by
  refine ⟨fun m hm => ?_, fun m why h => ?_⟩
  · have hm' := hx.bridge m hm
    rw [bind_apply]
    rcases hxm : x m with ⟨e | a, m'⟩
    · rwa [hxm] at hm'
    · rw [hxm] at hm'
      exact (hf a).bridge m' hm'
  · rw [bind_apply] at h
    rcases hxm : x m with ⟨e | a, m'⟩
    · rw [hxm] at h
      exact hx.refused m why (by rw [hxm]; exact congrArg Except.error (Except.error.inj h))
    · rw [hxm] at h
      exact (hf a).refused m' why h

theorem keeps_load (address : UInt32) : Keeps P (load address) := by
  refine .of_bridge_eq (fun m => ?_) fun m why h => ?_
  · unfold load
    split <;> rfl
  · unfold load at h
    split at h <;> cases h

theorem keeps_store (address value : UInt32) : Keeps P (store address value) := by
  refine .of_bridge_eq (fun m => ?_) fun m why h => ?_
  · unfold store
    repeat' split
    all_goals rfl
  · unfold store at h
    repeat' split at h
    all_goals cases h

theorem keeps_grow (pages : UInt32) : Keeps P (grow pages) := by
  refine .of_bridge_eq (fun m => ?_) fun m why h => ?_
  · simp only [grow]
    repeat' split
    all_goals rfl
  · simp only [grow] at h
    repeat' split at h
    all_goals cases h

end Exec

/-! ### Functions of the host and of the system interface -/

namespace HostFunction

variable {P : Bridge → Prop}

theorem keeps_onMemory (f : HostFunction) (hP : Bridge.Lasting P)
    {act : Bridge → Heap → Bridge × Heap × Except Fault Unit × Journal}
    (hact : ∀ b h, P b → P (act b h).1) : Exec.Keeps P (f.onMemory act) := by
  refine ⟨fun m hm => ?_, fun m why h => ?_⟩
  · have hbound : P (m.bridge.bind m.binding) := hP m.bridge m.heap (.bind m.binding) hm
    have hacted := hact _ m.heap hbound
    unfold onMemory
    simp only
    split <;> exact hacted
  · unfold onMemory at h
    simp only at h
    split at h
    · cases h
    · exact ⟨_, _, (Ending.refused.inj (Except.error.inj h)).symm⟩
    · exact ⟨_, _, (Ending.refused.inj (Except.error.inj h)).symm⟩

theorem keeps_onBridge {act : Bridge → Bridge × Journal} (hact : ∀ b, P b → P (act b).1) :
    Exec.Keeps P (onBridge act) :=
  ⟨fun m hm => hact m.bridge hm, fun m why h => by cases h⟩

theorem keeps_asking (ask : Bridge → UInt32) : Exec.Keeps P (asking ask) :=
  .of_bridge_eq (fun _ => rfl) fun _ _ h => by cases h

theorem keeps_logging (f : HostFunction) (hP : Bridge.Lasting P) (level : GuestLevel)
    (address length : UInt32) : Exec.Keeps P (f.logging level address length) :=
  f.keeps_onMemory hP fun b h hb => hP b h (.log level address length) hb

/-- **A call of the host** is a call on the bridge. -/
theorem keeps_run (hP : Bridge.Lasting P) (f : HostFunction) (args : List Operand) :
    Exec.Keeps P (f.run args) := by
  unfold run
  cases f with
  | soundPlay => exact keeps_onBridge fun b hb => hP b {} (.play _ _) hb
  | soundDropAll => exact keeps_onBridge fun b hb => hP b {} .dropAll hb
  | requestFile => exact keeps_onBridge fun b hb => hP b {} .request hb
  | fileLength => exact keeps_asking _
  | fileType => exact keeps_asking _
  | importFile =>
      refine keeps_onMemory _ hP fun b h hb => ?_
      exact hP b h (.importFile _) hb
  | giveFile =>
      refine keeps_onMemory _ hP fun b h hb => ?_
      exact hP b h (.giveFile _ _ _ _) hb
  | _ => exact keeps_logging _ hP _ _ _

end HostFunction

/-- The system interface does not know the bridge. -/
theorem SystemFunction.keeps_run {P : Bridge → Prop} (f : SystemFunction) (args : List Operand) :
    Exec.Keeps P (f.run args) := by
  cases f with
  | exit => exact .of_bridge_eq (fun _ => rfl) fun _ _ h => by cases h
  | giveWay => exact .pure 0
  | write =>
      refine .of_bridge_eq (fun m => ?_) fun m why h => ?_
      · simp only [run, writeSpans]
        repeat' split
        all_goals rfl
      · simp only [run, writeSpans] at h
        repeat' split at h
        -- Only a guest without memory is refused.
        all_goals cases h
        exact ⟨_, _, rfl⟩

/-! ### Instructions -/

section instructions
variable {P : Bridge → Prop}

theorem Exec.keeps_call (hP : Bridge.Lasting P) (f : Import) (args : List Operand) :
    Exec.Keeps P (Exec.call f args) := by
  have htrap : Exec.Keeps P (Exec.stop (.trap .unreachable) : Exec UInt32) :=
    .stop fun _ h => by cases h
  unfold Exec.call
  split_ifs
  · split
    · exact HostFunction.keeps_run hP _ args
    · exact htrap
  · split
    · exact SystemFunction.keeps_run _ args
    · exact htrap
  · exact htrap

mutual

/-- **One instruction** keeps what every call on the bridge keeps. -/
theorem Instr.keeps_run (hP : Bridge.Lasting P) : ∀ i : Instr, Exec.Keeps P i.run
  | .call f args => by
      rw [Instr.run]
      exact (Exec.keeps_call hP f args).bind fun _ => .pure ()
  | .store address f args => by
      rw [Instr.run]
      exact (Exec.keeps_call hP f args).bind fun w => Exec.keeps_store address w
  | .set address value => by
      rw [Instr.run]
      exact Exec.keeps_store address value
  | .increment address => by
      rw [Instr.run]
      exact (Exec.keeps_load address).bind fun w => Exec.keeps_store address (w + 1)
  | .grow address pages => by
      rw [Instr.run]
      exact (Exec.keeps_grow pages).bind fun w => Exec.keeps_store address w
  | .ifCall f body => by
      rw [Instr.run]
      refine (Exec.keeps_call hP f []).bind fun w => ?_
      split_ifs
      · exact Instr.keeps_runAll hP body
      · exact .pure ()
  | .ifEqual address value body => by
      rw [Instr.run]
      refine (Exec.keeps_load address).bind fun w => ?_
      split_ifs
      · exact Instr.keeps_runAll hP body
      · exact .pure ()
  | .trap => by
      rw [Instr.run]
      exact .stop fun _ h => by cases h
  | .spin => by
      rw [Instr.run]
      exact .stop fun _ h => by cases h

/-- **All instructions** of a body. -/
theorem Instr.keeps_runAll (hP : Bridge.Lasting P) : ∀ body : List Instr,
    Exec.Keeps P (Instr.runAll body)
  | [] => by
      rw [Instr.runAll]
      exact .pure ()
  | i :: rest => by
      rw [Instr.runAll]
      exact (Instr.keeps_run hP i).bind fun _ => Instr.keeps_runAll hP rest

end

theorem Result.keeps_run (hP : Bridge.Lasting P) (r : Result) : Exec.Keeps P r.run := by
  cases r with
  | nothing => exact .pure []
  | answer f => exact (Exec.keeps_call hP f []).bind fun w => .pure [w]
  | word address => exact (Exec.keeps_load address).bind fun w => .pure [w]

/-- **A function of a guest** keeps what every call on the bridge keeps. -/
theorem Function.keeps_run (hP : Bridge.Lasting P) (f : Function) : Exec.Keeps P f.run :=
  (Instr.keeps_runAll hP f.body).bind fun _ => Result.keeps_run hP f.result

end instructions

namespace Engine

variable {P : Bridge → Prop}

/-! ### Instances -/

/-- Running start functions keeps what every call on the bridge keeps; what stops them is not that the
host functions are in use. -/
theorem keeps_runStart (hP : Bridge.Lasting P) (code : Module) (names : List String) {m : Machine}
    (hm : P m.bridge) :
    P (runStart code names m).2.bridge ∧
      (runStart code names m).1 ≠ some .environmentInUse := by
  induction names generalizing m with
  | nil => exact ⟨hm, by simp [runStart]⟩
  | cons name names ih =>
      rw [runStart]
      split
      · exact ih hm
      · rename_i f _
        have hkeeps := Function.keeps_run hP f
        have hnext := hkeeps.bridge m hm
        split
        · rename_i m' hrun
          rw [hrun] at hnext
          exact ih hnext
        · rename_i m' hrun
          rw [hrun] at hnext
          exact ⟨hnext, by simp⟩
        · rename_i e m' _ hrun
          rw [hrun] at hnext
          refine ⟨hnext, ?_⟩
          cases e with
          | refused why =>
              obtain ⟨cause, tail, rfl⟩ := hkeeps.refused m why (by rw [hrun])
              simp [Ending.fault]
          | trap why => simp [Ending.fault]
          | exit code => simp [Ending.fault]
          | endless => simp [Ending.fault]

theorem keeps_bringUp (hP : Bridge.Lasting P) (e : Engine) {b : Bridge} (hb : P b) (id : String)
    (offered : List String) (c : Compiled) (start : List String) :
    P (bringUp e b id offered c start).2.1 ∧
      (bringUp e b id offered c start).2.2.1 ≠ .error .environmentInUse := by
  unfold bringUp
  split
  · exact ⟨hb, by simp⟩
  · split
    · exact ⟨hb, by simp⟩
    · rename_i heap memory _
      simp only
      split_ifs
      · exact ⟨hb, by simp⟩
      · obtain ⟨hbridge, hfault⟩ := keeps_runStart hP c.module start
          (m := machine { e with heap } b memory none) hb
        rcases hstart : runStart c.module start (machine { e with heap } b memory none)
          with ⟨_ | f, m⟩
        · rw [hstart] at hbridge
          exact ⟨hbridge, by simp⟩
        · rw [hstart] at hbridge hfault
          exact ⟨hbridge, by simpa using hfault⟩

/-- **Making an instance** keeps what every call on the bridge keeps.  It is refused because the host
functions are in use only if they are. -/
theorem keeps_instantiate (hP : Bridge.Lasting P) (e : Engine) {b : Bridge} (hb : P b)
    (r : InstanceRequest) :
    P (e.instantiate b r).2.1 ∧
      (HostFunction.moduleName ∉ e.registered →
        ∀ m id, (e.instantiate b r).2.2.1 ≠ .error (.instantiation m id .environmentInUse)) := by
  obtain ⟨generated, hgenerated⟩ := e.identify_fst r.id
  unfold instantiate
  split
  · exact ⟨hb, by simp⟩
  · rename_i c _
    split_ifs
    · exact ⟨hb, by simp⟩
    · simp only
      by_cases henv : HostFunction.moduleName ∈ (e.identify r.id).1.registered
      · rw [if_pos (List.contains_iff_mem.mpr henv)]
        rw [hgenerated] at henv
        exact ⟨hb, fun hfree => absurd henv hfree⟩
      · rw [if_neg (mt List.contains_iff_mem.mp henv)]
        split
        · exact ⟨hb, by simp⟩
        · rename_i cs _
          split_ifs
          · exact ⟨hb, by simp⟩
          · obtain ⟨hbridge, hfault⟩ := keeps_bringUp hP (e.identify r.id).1 hb (e.identify r.id).2
              (Environment.names cs) c r.start
            simp only [launch]
            rcases hup : bringUp (e.identify r.id).1 b (e.identify r.id).2 (Environment.names cs) c
              r.start with ⟨e', b', f | i, log⟩
            · rw [hup] at hbridge hfault
              refine ⟨hbridge, fun _ m id h => hfault ?_⟩
              simp only [Except.error.injEq, Fault.instantiation.injEq] at h
              rw [h.2.2]
            · rw [hup] at hbridge
              exact ⟨hbridge, by simp⟩

/-- **Calling an instance** keeps what every call on the bridge keeps. -/
theorem keeps_call (hP : Bridge.Lasting P) (e : Engine) {b : Bridge} (hb : P b) (n : Nat)
    (name : String) : P (e.call b n name).2.1 := by
  unfold call
  split
  · exact hb
  · rename_i i _
    split
    · exact hb
    · rename_i f _
      exact (Function.keeps_run hP f).bridge (e.machine b i.memory i.closing) hb

end Engine
end GuestHost
