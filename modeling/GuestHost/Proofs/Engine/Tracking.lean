import GuestHost.Proofs.Engine.Ownership

/-! # Finding instances by their id

An engine finds an instance by its id in a table (`Engine.instance?`).  The table has one entry for
an id, the instance that was made last under it, and closing an instance takes the entry of its id
out.  Closing does so every time and whoever has the id then.

So an instance is found just when it was made under the id, was not closed, and no instance of the
same id was closed after it was made (`found_iff_live_and_undisturbed`).  The last of these is
needed: an instance that was closed before can be closed again after its id was given to another one,
and then the other one is lost (`closing_again_loses_the_next_instance`). -/

namespace GuestHost
namespace Engine

/-! ### Order in a history -/

/-- One thing happened and another one later. -/
def History.Before (h : History) (a b : Happening) : Prop := [a, b].Sublist h

theorem History.Before.mem {h : History} {a b : Happening} (hbefore : h.Before a b) : a ∈ h :=
  hbefore.subset (by simp)

theorem History.before_concat (h : History) (a b c : Happening) :
    History.Before (h ++ [c]) a b ↔ h.Before a b ∨ a ∈ h ∧ b = c := by
  -- Read from the end, the added happening is the head.
  have hback : ∀ l : History, l.Before a b ↔ [b, a].Sublist l.reverse := by
    intro l
    rw [← List.reverse_sublist, List.reverse_reverse]
    rfl
  rw [hback, hback, List.reverse_append, List.reverse_singleton, List.singleton_append,
    List.sublist_cons_iff]
  apply or_congr_right
  constructor
  · rintro ⟨r, heq, hr⟩
    obtain ⟨rfl, rfl⟩ := List.cons.inj heq
    exact ⟨List.mem_reverse.mp (List.singleton_sublist.mp hr), rfl⟩
  · rintro ⟨ha, rfl⟩
    exact ⟨[a], rfl, List.singleton_sublist.mpr (List.mem_reverse.mpr ha)⟩

/-! ### The table of ids -/

theorem lookup_filter_ne (l : List (String × Nat)) (id id' : String) :
    (l.filter (·.1 ≠ id)).lookup id' = if id' = id then none else l.lookup id' := by
  induction l with
  | nil => simp
  | cons p l ih =>
    obtain ⟨key, n⟩ := p
    by_cases hkey : key = id
    · subst hkey
      rw [List.filter_cons_of_neg (by simp), ih, List.lookup_cons]
      split_ifs with hid
      · rfl
      · rw [beq_eq_false_iff_ne.mpr hid]
    · rw [List.filter_cons_of_pos (by simpa using hkey), List.lookup_cons, List.lookup_cons, ih]
      by_cases hid : id' = key
      · subst hid
        simp [hkey]
      · rw [beq_eq_false_iff_ne.mpr hid]

/-- The instance was made under the id and not closed, and no instance was closed under the id
since. -/
structure History.Undisturbed (h : History) (id : String) (n : Nat) : Prop where
  made : .made n id ∈ h
  unclosed : .closed n id ∉ h
  since : ∀ m, ¬ h.Before (.made n id) (.closed m id)

/-- What happens under another id does not disturb an instance. -/
theorem History.undisturbed_concat_of_ne {h : History} {x : Happening} {id : String} {n : Nat}
    (hmade : x ≠ .made n id) (hclosed : ∀ m, x ≠ .closed m id) :
    History.Undisturbed (h ++ [x]) id n ↔ h.Undisturbed id n := by
  have hmem : ∀ {y : Happening}, x ≠ y → (y ∈ h ++ [x] ↔ y ∈ h) := by
    intro y hy
    simp [hy.symm]
  constructor
  · rintro ⟨made, unclosed, since⟩
    refine ⟨(hmem hmade).mp made, mt (hmem (hclosed n)).mpr unclosed, fun m hm => since m ?_⟩
    exact (h.before_concat _ _ x).mpr (.inl hm)
  · rintro ⟨made, unclosed, since⟩
    refine ⟨(hmem hmade).mpr made, mt (hmem (hclosed n)).mp unclosed, fun m hm => ?_⟩
    obtain hm | ⟨-, heq⟩ := (h.before_concat _ _ x).mp hm
    · exact since m hm
    · exact hclosed m heq.symm

/-- An instance that was just closed takes every other one of its id with it. -/
theorem History.not_undisturbed_closed (h : History) (m n : Nat) (id : String) :
    ¬ History.Undisturbed (h ++ [.closed m id]) id n := by
  rintro ⟨made, -, since⟩
  have hmade : .made n id ∈ h := by simpa using made
  exact since m ((h.before_concat _ _ _).mpr (.inr ⟨hmade, rfl⟩))

/-- The table finds just the instances that were not disturbed. -/
def Tracked (e : Engine) (h : History) : Prop :=
  ∀ id n, e.instance? id = some n ↔ h.Undisturbed id n

theorem tracked_new (c : EngineConfig) (supply : Nat → String) : Tracked (new c supply) [] := by
  intro id n
  constructor
  · intro hfound
    cases hfound
  · rintro ⟨made, -, -⟩
    cases made

/-- Closing takes out the entry of the id, whether the instance was closed before or not. -/
theorem Tracked.closed {e e' : Engine} {h : History} (htracked : Tracked e h) {m : Nat}
    {id : String} (tracked : e'.tracked = e.tracked.filter (·.1 ≠ id)) :
    Tracked e' (h ++ [.closed m id]) := by
  intro id' n
  rw [instance?, tracked, lookup_filter_ne]
  by_cases hid : id' = id
  · subst hid
    simp [h.not_undisturbed_closed m n id']
  · rw [if_neg hid, History.undisturbed_concat_of_ne (by simp) (by simp [Ne.symm hid])]
    exact htracked id' n

/-- Making an instance gives it the entry of its id; all instances made before are closed. -/
theorem Tracked.made {e e' : Engine} {h : History} (htracked : Tracked e h) (hrec : Recorded e h)
    (howned : Owned e) {id : String} (free : HostFunction.moduleName ∉ e.registered)
    (tracked : e'.tracked = (id, e.instances.size) :: e.tracked.filter (·.1 ≠ id)) :
    Tracked e' (h ++ [.made e.instances.size id]) := by
  intro id' n
  rw [instance?, tracked, List.lookup_cons, lookup_filter_ne]
  by_cases hid : id' = id
  · subst hid
    have hnew : .made e.instances.size id' ∉ h := by
      simp [hrec.made, roster_size]
    simp only [BEq.rfl, Option.some.injEq]
    constructor
    · rintro rfl
      refine ⟨by simp, by simp [hrec.closed, roster_size], fun m hm => ?_⟩
      obtain hm | ⟨-, heq⟩ := (h.before_concat _ _ _).mp hm
      · exact hnew hm.mem
      · cases heq
    · rintro ⟨made, unclosed, -⟩
      by_contra hne
      obtain ⟨released, hn⟩ := (hrec.made n id').mp (by simpa [Ne.symm hne] using made)
      cases released with
      | false => exact howned.all_closed free n id' hn
      | true => exact unclosed (List.mem_append_left _ ((hrec.closed n id').mpr hn))
  · rw [beq_eq_false_iff_ne.mpr hid, if_neg hid,
      History.undisturbed_concat_of_ne (by simp [Ne.symm hid]) (by simp)]
    exact htracked id' n

theorem Tracked.step {e e' : Engine} {h more : History} (htracked : Tracked e h)
    (hrec : Recorded e h) (howned : Owned e) (hstep : Step e e' more) : Tracked e' (h ++ more) := by
  cases hstep with
  | still roster tracked names environment =>
    intro id n
    rw [List.append_nil, instance?, tracked]
    exact htracked id n
  | made id free named roster tracked names environment =>
    exact htracked.made hrec howned free tracked
  | closed m id opened roster tracked names => exact htracked.closed tracked
  | again m id released roster tracked names => exact htracked.closed tracked

/-- **The table of ids.**  After any acts, an instance is found by an id just when it was made under
the id, is live, and no instance was closed under the same id after it was made. -/
theorem found_iff_live_and_undisturbed (c : EngineConfig) (supply : Nat → String)
    (acts : List Act) (id : String) (n : Nat) :
    let e := (new c supply).after acts
    let h := (new c supply).history acts
    e.instance? id = some n ↔
      .made n id ∈ h ∧ h.Live n ∧ ∀ m, ¬ h.Before (.made n id) (.closed m id) := by
  intro e h
  obtain ⟨hrec, -, htracked⟩ : Recorded e h ∧ Owned e ∧ Tracked e h :=
    after_induction (P := fun e h => Owned e ∧ Tracked e h) c supply
      ⟨owned_new c supply, tracked_new c supply⟩
      (fun hrec hstep hconfig ⟨howned, htracked⟩ =>
        ⟨howned.step hstep hconfig, htracked.step hrec howned hstep⟩) acts
  rw [htracked id n]
  constructor
  · rintro ⟨made, unclosed, since⟩
    refine ⟨made, ⟨⟨id, made⟩, fun id' hclosed => ?_⟩, since⟩
    -- An instance has one id for good.
    obtain ⟨released, hn⟩ := (hrec.made n id).mp made
    have hn' := (hrec.closed n id').mp hclosed
    rw [hn] at hn'
    cases hn'
    exact unclosed hclosed
  · rintro ⟨made, live, since⟩
    exact ⟨made, live.2 id, since⟩

/-- An instance is closed, its id is given to another one, and the first is closed once more: the
second is live and is not found. -/
theorem closing_again_loses_the_next_instance :
    let request : InstanceRequest := { module := "guest", id := "x" }
    let acts : List Act := [.load {} (.given "guest" (.module {})), .instantiate {} request,
      .close 0, .instantiate {} request, .close 0]
    let e := (new {} fun _ => "").after acts
    let h := (new {} fun _ => "").history acts
    h = [.made 0 "x", .closed 0 "x", .made 1 "x", .closed 0 "x"] ∧ h.Live 1 ∧
      e.instance? "x" = none := by
  intro request acts e h
  have hh : h = [.made 0 "x", .closed 0 "x", .made 1 "x", .closed 0 "x"] := by decide +kernel
  refine ⟨hh, ?_, by decide +kernel⟩
  rw [hh]
  exact ⟨⟨"x", by simp⟩, by simp⟩

end Engine
end GuestHost
