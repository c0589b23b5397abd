import GuestHost.Proofs.Inbox.History
import Mathlib.Data.List.Range

/-! # One request at a time

* A request is **withdrawn** by its owner, by closing the inbox, or by the request that takes its
  place (`Happening.withdraws`).  A watch is cancelled just if this happened since its request.
* All watches but the current one are cancelled, and the current one is the latest.

One act keeps the inbox as the history says (`Recorded.act`), hence so does a whole run
(`Recorded.after`).  `one_request_at_a_time` is what comes of it. -/

namespace GuestHost
namespace Inbox

/-! ### One watch follows the history -/

/-- The watch of a request is as the history says. -/
structure Traced (w : Watch) (k : Nat) (h : History) : Prop where
  opened : .opened k ∈ h
  cancelled : w.cancelled = (h.since k).any (·.withdraws k)
  kept : w.Kept (h.notes k)
  /-- The watch took no note before its request. -/
  whole : (h.since k).notes k = h.notes k

namespace Traced

variable {w : Watch} {k : Nat} {h : History}

theorem new (hopened : .opened k ∉ h) (hnotes : h.notes k = []) :
    Traced {} k (h ++ [.opened k]) := by
  have hnone : History.notes (h ++ [.opened k]) k = [] := by
    rw [History.notes_append, hnotes]
    rfl
  refine ⟨by simp, ?_, ?_, ?_⟩
  · rw [History.since_opened hopened]
    rfl
  · rw [hnone]
    exact Watch.kept_new
  · rw [hnone, History.since_opened hopened]
    rfl

/-- More happens, and the watch follows. -/
theorem append {w' : Watch} {l : History} (htraced : Traced w k h)
    (cancelled : w'.cancelled = (w.cancelled || l.any (·.withdraws k)))
    (kept : w'.Kept (h.notes k ++ l.notes k)) : Traced w' k (h ++ l) := by
  refine ⟨List.mem_append_left _ htraced.opened, ?_, ?_, ?_⟩
  · rw [cancelled, htraced.cancelled, History.since_append htraced.opened, List.any_append]
  · rw [History.notes_append]
    exact kept
  · rw [History.since_append htraced.opened, History.notes_append, History.notes_append, htraced.whole]

theorem withdraw {y : Happening} (htraced : Traced w k h) (hy : y.withdraws k = true) :
    Traced { w with cancelled := true } k (h ++ [y]) := by
  have hnotes : History.notes [y] k = [] := by
    cases y with
    | noted j note => cases hy
    | _ => rfl
  refine htraced.append (by simp [hy]) ?_
  rw [hnotes, List.append_nil]
  exact htraced.kept.cancel

theorem withdraw_again {y : Happening} (htraced : Traced w k h) (hcancelled : w.cancelled = true)
    (hy : y.withdraws k = true) : Traced w k (h ++ [y]) := by
  have hsame : { w with cancelled := true } = w := by
    rw [← hcancelled]
  rw [← hsame]
  exact htraced.withdraw hy

theorem others {l : History} (htraced : Traced w k h) (hwithdraws : l.any (·.withdraws k) = false)
    (hnotes : l.notes k = []) : Traced w k (h ++ l) := by
  refine htraced.append (by rw [hwithdraws, Bool.or_false]) ?_
  rw [hnotes, List.append_nil]
  exact htraced.kept

theorem step (htraced : Traced w k h) (t : FileTree) (e : WatchEvent) :
    Traced (w.step t e).1 k (h ++ (w.notes t e).map (.noted k)) := by
  refine htraced.append ?_ ?_
  · rw [Watch.cancelled_step, History.any_map_noted, Bool.or_false]
  · rw [History.notes_map_noted, if_pos rfl]
    exact htraced.kept.step t e

end Traced

/-! ### The inbox follows the history -/

/-- The inbox is as the history says. -/
structure Recorded (b : Inbox) (h : History) : Prop where
  /-- Requests are numbered in the order in which they were accepted. -/
  opens : h.opens = List.range b.watches.length
  traced : ∀ k w, b.watches[k]? = some w → Traced w k h
  /-- There are no notes without a watch. -/
  known : ∀ k, b.watches.length ≤ k → h.notes k = []
  /-- A watch other than the current one is cancelled. -/
  replaced : ∀ k w, b.watches[k]? = some w → w.cancelled = true ∨ b.current = some k
  latest : ∀ k, b.current = some k → k + 1 = b.watches.length

theorem length_cancelCurrent (b : Inbox) : b.cancelCurrent.watches.length = b.watches.length := by
  unfold Inbox.cancelCurrent
  split
  · exact List.length_modify ..
  · rfl

namespace Recorded

variable {b : Inbox} {h : History}

theorem new (directory : String) (settle : Duration) : Recorded (.new directory settle) [] :=
  ⟨rfl, by simp [Inbox.new], fun _ _ => rfl, by simp [Inbox.new], by simp [Inbox.new]⟩

/-- When the current request is withdrawn, all requests are. -/
theorem cancelCurrent (hrec : Recorded b h) {k : Nat} {w : Watch}
    (hw : b.cancelCurrent.watches[k]? = some w) {y : Happening} (hy : ∀ j, y.withdraws j = true) :
    w.cancelled = true ∧ Traced w k (h ++ [y]) := by
  unfold Inbox.cancelCurrent at hw
  cases hcurrent : b.current with
  | none =>
      rw [hcurrent] at hw
      have hcancelled := (hrec.replaced k w hw).resolve_right (by simp [hcurrent])
      exact ⟨hcancelled, (hrec.traced k w hw).withdraw_again hcancelled (hy k)⟩
  | some j =>
      simp only [hcurrent, Inbox.cancel, List.getElem?_modify] at hw
      obtain ⟨v, hv, hvw⟩ := Option.map_eq_some_iff.mp hw
      by_cases hj : j = k
      · rw [if_pos hj] at hvw
        subst hvw
        exact ⟨rfl, (hrec.traced k v hv).withdraw (hy k)⟩
      · rw [if_neg hj] at hvw
        obtain rfl : v = w := hvw
        have hcancelled := (hrec.replaced k v hv).resolve_right (by simpa [hcurrent] using hj)
        exact ⟨hcancelled, (hrec.traced k v hv).withdraw_again hcancelled (hy k)⟩

theorem opened (hrec : Recorded b h) :
    Recorded b.replaceCurrent (h ++ [.opened b.watches.length]) := by
  have hlength : b.replaceCurrent.watches.length = b.watches.length + 1 := by
    rw [replaceCurrent, List.length_append, length_cancelCurrent, List.length_singleton]
  have hfresh : .opened b.watches.length ∉ h := by
    rw [← History.mem_opens_iff, hrec.opens]
    simp
  -- A watch is an older one, which is cancelled now, or the new one.
  have hwatches : ∀ {k w}, b.replaceCurrent.watches[k]? = some w →
      (w.cancelled = true ∧ Traced w k (h ++ [.opened b.watches.length])) ∨
        k = b.watches.length ∧ w = {} := by
    intro k w hw
    rw [replaceCurrent, List.getElem?_append, List.getElem?_singleton, length_cancelCurrent] at hw
    split_ifs at hw with hk hk'
    · exact .inl (hrec.cancelCurrent hw fun _ => rfl)
    · exact .inr ⟨by omega, (Option.some.inj hw).symm⟩
  refine ⟨?_, ?_, ?_, ?_, ?_⟩
  · rw [History.opens_append, hrec.opens, hlength, List.range_succ]
    rfl
  · intro k w hw
    obtain ⟨-, htraced⟩ | ⟨rfl, rfl⟩ := hwatches hw
    · exact htraced
    · exact .new hfresh (hrec.known _ (Nat.le_refl _))
  · intro k hk
    rw [History.notes_append, hrec.known k (by omega)]
    rfl
  · intro k w hw
    obtain ⟨hcancelled, -⟩ | ⟨rfl, -⟩ := hwatches hw
    · exact .inl hcancelled
    · exact .inr rfl
  · intro k hk
    rw [hlength, ← Option.some.inj hk]

/-- More happens, but no request is accepted: it is enough to look at each watch. -/
theorem append {b' : Inbox} {l : History} (hrec : Recorded b h)
    (length : b'.watches.length = b.watches.length) (opens : l.opens = [])
    (known : ∀ k, b.watches.length ≤ k → l.notes k = [])
    (watches : ∀ k w, b'.watches[k]? = some w →
      Traced w k (h ++ l) ∧ (w.cancelled = true ∨ b'.current = some k))
    (latest : ∀ k, b'.current = some k → b.current = some k) : Recorded b' (h ++ l) := by
  refine ⟨?_, fun k w hw => (watches k w hw).1, ?_, fun k w hw => (watches k w hw).2, ?_⟩
  · rw [History.opens_append, hrec.opens, opens, List.append_nil, length]
  · intro k hk
    rw [length] at hk
    rw [History.notes_append, hrec.known k hk, known k hk, List.append_nil]
  · intro k hk
    rw [length]
    exact hrec.latest k (latest k hk)

theorem withdraw (hrec : Recorded b h) (k : Nat) : Recorded (b.cancel k) (h ++ [.withdrawn k]) := by
  refine hrec.append (List.length_modify ..) rfl (fun _ _ => rfl) (fun j w hw => ?_) fun _ hj => hj
  rw [Inbox.cancel, List.getElem?_modify] at hw
  obtain ⟨v, hv, rfl⟩ := Option.map_eq_some_iff.mp hw
  have htraced := hrec.traced j v hv
  split_ifs with hj
  · exact ⟨htraced.withdraw (by simp [Happening.withdraws, hj]), .inl rfl⟩
  · exact ⟨htraced.others (by simp [Happening.withdraws, hj]) rfl, hrec.replaced j v hv⟩

theorem close (hrec : Recorded b h) : Recorded b.close (h ++ [.closed]) := by
  refine hrec.append (length_cancelCurrent b) rfl (fun _ _ => rfl) (fun k w hw => ?_) nofun
  obtain ⟨hcancelled, htraced⟩ := hrec.cancelCurrent (y := .closed) hw fun _ => rfl
  exact ⟨htraced, .inl hcancelled⟩

/-- A watch goes on. -/
theorem event (hrec : Recorded b h) {k : Nat} {w : Watch} (hw : b.watches[k]? = some w)
    (t : FileTree) (e : WatchEvent) :
    Recorded { b with watches := b.watches.set k (w.step t e).1 }
      (h ++ (w.notes t e).map (.noted k)) := by
  have hk : k < b.watches.length := (List.getElem?_eq_some_iff.mp hw).1
  refine hrec.append (List.length_set ..) (History.opens_map_noted ..) (fun j hj => ?_)
    (fun j v hv => ?_) fun _ hj => hj
  · rw [History.notes_map_noted, if_neg (by omega)]
  · rw [List.getElem?_set] at hv
    split_ifs at hv with hj
    · cases hj
      cases hv
      refine ⟨(hrec.traced k w hw).step t e, ?_⟩
      rw [Watch.cancelled_step]
      exact hrec.replaced k w hw
    · refine ⟨(hrec.traced j v hv).others (History.any_map_noted ..) ?_, hrec.replaced j v hv⟩
      rw [History.notes_map_noted, if_neg hj]

end Recorded

/-- A request is refused and the inbox stays as it was, or it is accepted. -/
theorem request_cases (b : Inbox) (t : FileTree) (refusal : Option WatchRefusal) :
    (∃ t' f, b.request t refusal = (b, t', .error f, [])) ∨
      ∃ t' said, b.request t refusal = (b.replaceCurrent, t', .ok b.watches.length, said) := by
  unfold request
  split
  · exact .inl ⟨_, _, rfl⟩
  · exact .inl ⟨_, _, rfl⟩
  · exact .inr ⟨_, _, rfl⟩

/-- **One act** keeps the inbox as the history says. -/
theorem Recorded.act {x : Scene} {h : History} (hrec : Recorded x.inbox h) (a : Act) :
    Recorded (x.act a).inbox (h ++ x.happenings a) := by
  cases a with
  | request refusal =>
      obtain ⟨t, f, hrequest⟩ | ⟨t, said, hrequest⟩ := x.inbox.request_cases x.files refusal
      · simp only [Scene.act, Scene.happenings, hrequest, List.append_nil]
        exact hrec
      · simp only [Scene.act, Scene.happenings, hrequest]
        exact hrec.opened
  | withdraw k =>
      rw [Scene.happenings]
      split_ifs with hk
      · exact hrec.withdraw k
      · -- There is nothing to withdraw.
        rw [List.append_nil, Scene.act, Inbox.cancel, List.modify_eq_self (by omega)]
        exact hrec
  | close => exact hrec.close
  | event k e =>
      cases hw : x.inbox.watches[k]? with
      | none =>
          simp only [Scene.happenings, Scene.act, Inbox.step, hw, List.append_nil]
          exact hrec
      | some w =>
          simp only [Scene.happenings, Scene.act, Inbox.step, hw]
          exact hrec.event hw x.files e
  | change files =>
      rw [Scene.happenings, List.append_nil]
      exact hrec

/-- **A whole run** keeps the inbox as the history says. -/
theorem Recorded.after {x : Scene} {h : History} (hrec : Recorded x.inbox h) (acts : List Act) :
    Recorded (x.after acts).inbox (h ++ x.history acts) := by
  induction acts generalizing x h with
  | nil => simpa [Scene.history, Scene.after] using hrec
  | cons a acts ih =>
      rw [Scene.history, ← List.append_assoc]
      exact ih (hrec.act a)

namespace Recorded

variable {b : Inbox} {h : History}

/-- A watch that was not cancelled is the one of the latest request. -/
theorem latest_of_wanted (hrec : Recorded b h) {k : Nat} {w : Watch} (hw : b.watches[k]? = some w)
    (hwanted : w.cancelled = false) : k + 1 = b.watches.length := by
  have hreplaced := hrec.replaced k w hw
  rw [hwanted] at hreplaced
  exact hrec.latest k (hreplaced.resolve_left Bool.false_ne_true)

theorem length_handed (hrec : Recorded b h) (k : Nat) : (h.notes k).handed.length ≤ 1 := by
  cases hw : b.watches[k]? with
  | none =>
      rw [hrec.known k (List.getElem?_eq_none_iff.mp hw)]
      exact Nat.zero_le 1
  | some w => exact (hrec.traced k w hw).kept.once

/-- **Handing over.**  The timer fires, the request is the latest and was not withdrawn, and the path
touched last since then is a regular file. -/
theorem of_handed (hrec : Recorded b h) {t : FileTree} {k : Nat} {e : WatchEvent} {s : Selection}
    (hs : (b.step t k e).2.1 = some s) :
    e = .settled none ∧ (∃ w, b.watches[k]? = some w ∧ w.isLive = true) ∧
      h.opens.getLast? = some k ∧ (∀ y ∈ h.since k, y.withdraws k = false) ∧
      ∃ path c, ((h.since k).notes k).touches.getLast? = some path ∧
        t.stat path = .ok (.file c) ∧ s = ⟨Path.base path, c.data⟩ := by
  unfold Inbox.step at hs
  cases hw : b.watches[k]? with
  | none =>
      rw [hw] at hs
      cases hs
  | some w =>
      rw [hw] at hs
      obtain ⟨he, hlive, -, path, c, hcandidate, hfile, hselected⟩ := Watch.handed_iff.mp hs
      have htraced := hrec.traced k w hw
      have hwanted : w.cancelled = false := by
        rw [Watch.isLive, Bool.and_eq_true, Bool.not_eq_true'] at hlive
        exact hlive.1
      refine ⟨he, ⟨w, rfl, hlive⟩, ?_, ?_, path, c, ?_, hfile, hselected⟩
      · rw [hrec.opens, ← hrec.latest_of_wanted hw hwanted, List.range_succ, List.getLast?_concat]
      · intro y hy
        rw [htraced.cancelled, List.any_eq_false] at hwanted
        exact Bool.eq_false_iff.mpr (hwanted y hy)
      · rw [htraced.whole, ← htraced.kept.candidate, hcandidate]

end Recorded

/-- **One request at a time.**  After any acts:

* At most one watch is live.
* No request was ever handed two files.
* A file is handed over only when the timer of a live watch fires.  Then the watch is that of the
  latest request, which was not withdrawn since, and the file is the one at the path touched last
  since that request: it goes by the last name of the path, with the content it has at that moment.
* A request that fails leaves all watches as they were. -/
theorem one_request_at_a_time (directory : String) (settle : Duration) (files : FileTree)
    (acts : List Act) :
    let x := (Scene.new directory settle files).after acts
    let h := (Scene.new directory settle files).history acts
    (∀ (j k : Nat) (v w : Watch), x.inbox.watches[j]? = some v → x.inbox.watches[k]? = some w →
      v.isLive = true → w.isLive = true → j = k) ∧
    (∀ k, (((Scene.new directory settle files).given acts).filter (·.1 = k)).length ≤ 1) ∧
    (∀ k e s, (x.inbox.step x.files k e).2.1 = some s →
      e = .settled none ∧ (∃ w, x.inbox.watches[k]? = some w ∧ w.isLive = true) ∧
      h.opens.getLast? = some k ∧ (∀ y ∈ h.since k, y.withdraws k = false) ∧
      ∃ path c, ((h.since k).notes k).touches.getLast? = some path ∧
        x.files.stat path = .ok (.file c) ∧ s = ⟨Path.base path, c.data⟩) ∧
    (∀ refusal f, (x.inbox.request x.files refusal).2.2.1 = .error f →
      (x.inbox.request x.files refusal).1 = x.inbox) := by
  intro x h
  have hrec : Recorded x.inbox h :=
    Recorded.after (x := .new directory settle files) (.new directory settle) acts
  refine ⟨?_, fun k => ?_, fun k e s hs => hrec.of_handed hs, ?_⟩
  · intro j k v w hv hw hlive hlive'
    rw [Watch.isLive, Bool.and_eq_true, Bool.not_eq_true'] at hlive hlive'
    have hj := hrec.latest_of_wanted hv hlive.1
    have hk := hrec.latest_of_wanted hw hlive'.1
    omega
  · have honce := hrec.length_handed k
    rwa [handed_history, List.length_map] at honce
  · intro refusal f hf
    obtain ⟨t, g, hrequest⟩ | ⟨t, said, hrequest⟩ := x.inbox.request_cases x.files refusal
    · rw [hrequest]
    · rw [hrequest] at hf
      cases hf

/-- A request takes the place of another one, and a file is dropped: the second request is handed the
file, and it was not withdrawn. -/
theorem second_request_served :
    let files := FileTree.start.provide "in/a.l3" (.file (.bytes ⟨[1, 2]⟩))
    let x := (Scene.new "in" ⟨1⟩ .start).after
      [.request none, .request none, .change files, .event 1 (.touched "in/a.l3")]
    let h := (Scene.new "in" ⟨1⟩ .start).history
      [.request none, .request none, .change files, .event 1 (.touched "in/a.l3")]
    (x.inbox.step x.files 1 (.settled none)).2.1 = some ⟨"a.l3", ⟨[1, 2]⟩⟩ ∧
      h.opens.getLast? = some 1 ∧ ∀ y ∈ h.since 1, y.withdraws 1 = false := by
  intro files x h
  have hhanded : (x.inbox.step x.files 1 (.settled none)).2.1 = some ⟨"a.l3", ⟨[1, 2]⟩⟩ := by
    decide +kernel
  obtain ⟨-, -, honly, -⟩ := one_request_at_a_time "in" ⟨1⟩ .start
    [.request none, .request none, .change files, .event 1 (.touched "in/a.l3")]
  obtain ⟨-, -, hlatest, hwanted, -⟩ := honly 1 _ _ hhanded
  exact ⟨hhanded, hlatest, hwanted⟩

end Inbox
end GuestHost
