import GuestHost.Proofs.Engine.History

/-! # Who has the host functions

The host functions are in use under one name, and an instance has them from the moment it is made
until it is closed.

* **One owner** (`Owned`).  At most one instance is not closed, and the name of the host functions is
  in use just as long as there is one.  Every other name in use is the name of that instance or of
  the system interface.
* **Attempts that fail.**  Making an instance can fail in many ways, some of them after the host
  functions were already set up.  Whichever it is, the modules, the instances and the table of ids
  stay as they were, and so do the names in use, but for one case: an instance that asks for the name
  of the system interface takes that name from the engine (`environment_has_one_owner`,
  `failed_attempt_drops_system_interface`). -/

namespace GuestHost
namespace Engine

/-- The names in use go with the one instance that is not closed. -/
structure Owned (e : Engine) : Prop where
  environment : HostFunction.moduleName ∈ e.registered ↔ ∃ n id, e.roster n = some (id, false)
  single : ∀ {m n id id'}, e.roster m = some (id, false) → e.roster n = some (id', false) → m = n
  names : ∀ name ∈ e.registered, name = HostFunction.moduleName ∨
    (e.config.wasi = true ∧ name = SystemFunction.moduleName) ∨ ∃ n, e.roster n = some (name, false)

/-- While the host functions are free every instance is closed. -/
theorem Owned.all_closed {e : Engine} (howned : Owned e)
    (hfree : HostFunction.moduleName ∉ e.registered) (n : Nat) (id : String) :
    e.roster n ≠ some (id, false) := by
  intro hn
  exact hfree (howned.environment.mpr ⟨n, id, hn⟩)

theorem owned_new (c : EngineConfig) (supply : Nat → String) : Owned (new c supply) := by
  have hroster : ∀ n id, (new c supply).roster n ≠ some (id, false) := by
    intro n id
    simp [roster, new]
  have hnames : ∀ name ∈ (new c supply).registered,
      c.wasi = true ∧ name = SystemFunction.moduleName := by
    simp only [new]
    split_ifs with hwasi <;> simp [hwasi]
  refine ⟨⟨?_, ?_⟩, ?_, ?_⟩
  · intro henv
    exact absurd (hnames _ henv).2 (by decide)
  · rintro ⟨n, id, hn⟩
    exact absurd hn (hroster n id)
  · intro m n id id' hm
    exact absurd hm (hroster m id)
  · intro name hname
    exact .inr (.inl (hnames name hname))

theorem Owned.step {e e' : Engine} {more : History} (howned : Owned e)
    (hstep : Step e e' more) (hconfig : e'.config = e.config) : Owned e' := by
  cases hstep with
  | still roster tracked names environment =>
    refine ⟨?_, ?_, ?_⟩
    · rw [roster, ← howned.environment]
      exact ⟨fun hin => names hin, environment⟩
    · rw [roster]
      exact howned.single
    · intro name hname
      rw [roster, hconfig]
      exact howned.names name (names hname)
  | made id free named roster tracked names environment =>
    -- Before the step every instance is closed, so the new one is the only one that is not.
    have hopen : ∀ n id', e'.roster n = some (id', false) ↔ n = e.instances.size ∧ id' = id := by
      intro n id'
      rw [roster]
      by_cases hn : n = e.instances.size
      · subst hn
        simp [eq_comm]
      · simp [hn, howned.all_closed free n id']
    refine ⟨?_, ?_, ?_⟩
    · exact ⟨fun _ => ⟨_, id, (hopen _ id).mpr ⟨rfl, rfl⟩⟩, fun _ => environment⟩
    · intro m n id₁ id₂ hm hn
      exact ((hopen m id₁).mp hm).1.trans ((hopen n id₂).mp hn).1.symm
    · intro name hname
      rw [hconfig]
      obtain rfl | hname := List.mem_cons.mp (names hname)
      · exact .inl rfl
      obtain rfl | hname := List.mem_cons.mp hname
      · exact .inr (.inr ⟨_, (hopen _ name).mpr ⟨rfl, rfl⟩⟩)
      obtain heq | hsystem | ⟨n, hn⟩ := howned.names name hname
      · exact .inl heq
      · exact .inr (.inl hsystem)
      · exact absurd hn (howned.all_closed free n name)
  | closed m id opened roster tracked names =>
    -- The closed instance was the only one that was not closed.
    have hclosed : ∀ n id', e'.roster n ≠ some (id', false) := by
      intro n id' hn
      rw [roster] at hn
      by_cases hnm : n = m
      · subst hnm
        simp at hn
      · rw [Function.update_of_ne hnm] at hn
        exact hnm (howned.single hn opened)
    refine ⟨⟨?_, ?_⟩, ?_, ?_⟩
    · intro henv
      simp [names] at henv
    · rintro ⟨n, id', hn⟩
      exact absurd hn (hclosed n id')
    · intro n n' id₁ id₂ hn
      exact absurd hn (hclosed n id₁)
    · intro name hname
      rw [names, List.mem_filter] at hname
      simp only [Bool.and_eq_true, decide_eq_true_eq] at hname
      rw [hconfig]
      obtain heq | hsystem | ⟨n, hn⟩ := howned.names name hname.1
      · exact absurd heq hname.2.1
      · exact .inr (.inl hsystem)
      · obtain rfl := howned.single hn opened
        rw [opened] at hn
        cases hn
        exact absurd rfl hname.2.2
  | again m id released roster tracked names =>
    refine ⟨?_, ?_, ?_⟩
    · rw [names, roster]
      exact howned.environment
    · rw [roster]
      exact howned.single
    · rw [names, roster, hconfig]
      exact howned.names

/-- The host functions are with one instance after any acts. -/
theorem owned_after (c : EngineConfig) (supply : Nat → String) (acts : List Act) :
    Recorded ((new c supply).after acts) ((new c supply).history acts) ∧
      Owned ((new c supply).after acts) :=
  after_induction (P := fun e _ => Owned e) c supply (owned_new c supply)
    (fun _ hstep hconfig howned => howned.step hstep hconfig) acts

/-- **The host functions have at most one owner.**  After any acts, the name of the host functions is
in use just when an instance was made and not closed; there is at most one such instance; an instance
is made only when there is none.  An attempt that fails leaves the modules, the instances and the
table of ids as they were.  The names in use stay as well, unless the system interface is offered and
the instance asked for its name. -/
theorem environment_has_one_owner (c : EngineConfig) (supply : Nat → String) (acts : List Act) :
    let e := (new c supply).after acts
    let h := (new c supply).history acts
    (HostFunction.moduleName ∈ e.registered ↔ ∃ n, h.Live n) ∧
    (∀ m n, h.Live m → h.Live n → m = n) ∧
    (∀ b r n, (e.instantiate b r).2.2.1 = .ok n → ∀ m, ¬ h.Live m) ∧
    (∀ b r f, (e.instantiate b r).2.2.1 = .error f →
      (e.instantiate b r).1.modules = e.modules ∧
      (e.instantiate b r).1.instances = e.instances ∧
      (e.instantiate b r).1.tracked = e.tracked ∧
      ((e.instantiate b r).1.registered = e.registered ∨
        c.wasi = true ∧ (e.identify r.id).2 = SystemFunction.moduleName ∧
        (e.instantiate b r).1.registered
          = e.registered.filter (· ≠ SystemFunction.moduleName))) := by
  intro e h
  obtain ⟨hrec, howned⟩ : Recorded e h ∧ Owned e := owned_after c supply acts
  have hconfig : e.config = c := ((new c supply).lasting_after acts).config
  refine ⟨?_, ?_, ?_, ?_⟩
  · rw [howned.environment]
    exact exists_congr fun n => (hrec.live_iff n).symm
  · intro m n hm hn
    obtain ⟨id, hm⟩ := (hrec.live_iff m).mp hm
    obtain ⟨id', hn⟩ := (hrec.live_iff n).mp hn
    exact howned.single hm hn
  · intro b r n hok m hm
    obtain ⟨f, _, _, _, _, _, _, hfail, -⟩ | ⟨_, _, _, _, _, _, -, hfree, -⟩ :=
      e.instantiate_cases b r
    · rw [hfail] at hok
      cases hok
    · obtain ⟨id, hm⟩ := (hrec.live_iff m).mp hm
      exact howned.all_closed hfree m id hm
  · intro b r f herror
    obtain ⟨_, _, _, _, _, _, registered, hfail, hnames⟩ | ⟨_, _, _, _, _, _, hmade, -⟩ :=
      e.instantiate_cases b r
    · rw [hfail]
      refine ⟨rfl, rfl, rfl, ?_⟩
      obtain hsame | ⟨hfree, hin, hfilter⟩ := hnames
      · exact .inl hsame
      · -- The name asked for was in use while every instance was closed.
        obtain heq | ⟨hwasi, heq⟩ | ⟨n, hn⟩ := howned.names _ hin
        · exact absurd (heq ▸ hin) hfree
        · exact .inr ⟨hconfig ▸ hwasi, heq, heq ▸ hfilter⟩
        · exact absurd hn (howned.all_closed hfree n _)
    · rw [hmade] at herror
      cases herror

/-- With the system interface on, an instance that asks for the name of the system interface is not
made, and yet the engine has lost that name: the same module could be made under another name before,
and cannot be afterwards. -/
theorem failed_attempt_drops_system_interface :
    let guest : Source := .given "guest"
      (.module { imports := [⟨SystemFunction.moduleName, "sched_yield"⟩] })
    let e := (new { wasi := true } fun _ => "").after [.load {} guest]
    let asked : InstanceRequest := { module := "guest", id := SystemFunction.moduleName }
    let other : InstanceRequest := { module := "guest", id := "other" }
    let e' := (e.instantiate {} asked).1
    (e.instantiate {} asked).2.2.1.isOk = false ∧
    SystemFunction.moduleName ∈ e.registered ∧ SystemFunction.moduleName ∉ e'.registered ∧
    (e.instantiate {} other).2.2.1.isOk = true ∧ (e'.instantiate {} other).2.2.1.isOk = false := by
  decide +kernel

end Engine
end GuestHost
