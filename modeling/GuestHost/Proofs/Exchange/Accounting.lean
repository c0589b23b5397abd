import GuestHost.Proofs.Exchange.History

/-! # Every choice is accounted for

A choice goes through three places: the queue, the slot for the pending file, and guest memory.

* **The queue** keeps the order: what the picker delivered is what drains have applied, followed by
  what still waits (`waiting_act`).
* **The slot** holds the choice applied last.  Every choice that was applied meets one fate: it is
  consumed, or dropped for a later one, or it is the last one and still pending (`Accounted`).
* **The records** tell the same story: one for every choice that became ready, one for every file
  that was consumed, one for every file that was dropped (`Notice`).

`selections_accounted` puts this together for every run of an exchange with a queue. -/

namespace GuestHost

/-! ### Records about files -/

/-- What an exchange tells about a file. -/
inductive Notice
  | ready
  | replaced
  | consumed

namespace Notice

/-- The text of a notice. -/
def message : Notice → String
  | ready => "File ready for import"
  | replaced => "Pending file replaced before it was consumed"
  | consumed => "File consumed by guest"

/-- The detail that names the file. -/
def key : Notice → String
  | ready => "name"
  | replaced => "dropped"
  | consumed => "name"

/-- The file that a record names, if it is such a notice. -/
def file? (n : Notice) (r : Record) : Option String :=
  if r.component = some Exchange.component ∧ r.message = n.message then
    r.details.findSome? fun
      | (k, .text s) => if k = n.key then some s else none
      | _ => none
  else none

/-- The files that notices name, in order. -/
def files (n : Notice) (j : Journal) : List String := j.filterMap n.file?

theorem files_append (n : Notice) (i j : Journal) : n.files (i ++ j) = n.files i ++ n.files j :=
  List.filterMap_append

theorem files_eq_nil (n : Notice) {j : Journal} (h : ∀ r ∈ j, r.message ≠ n.message) :
    n.files j = [] := by
  apply List.filterMap_eq_nil_iff.mpr
  intro r hr
  simp [file?, h r hr]

end Notice

namespace Exchange

namespace Happening

/-- The choice that was put into the queue. -/
def posted? : Happening → Option Selection
  | posted s => some s
  | _ => none

/-- The choice that was taken from the queue. -/
def drained? : Happening → Option Selection
  | drained s => some s
  | _ => none

end Happening

namespace History

/-- The choices that were put into the queue, in order. -/
def posted (h : History) : List Selection := h.filterMap Happening.posted?

/-- The choices that were taken from the queue, in order. -/
def drained (h : History) : List Selection := h.filterMap Happening.drained?

end History

/-! ### The queue -/

/-- The choices that the picker hands over during calls, in order. -/
def delivered (x : Exchange) : List Call → List Selection
  | [] => []
  | c :: cs => (x.delivered? c).toList ++ (x.act c).1.delivered cs

theorem waiting_deliver (x : Exchange) (s : Selection) :
    (x.deliver s).1.waiting = x.waiting ++ History.posted [x.arrival s] := by
  cases hq : x.queue with
  | none => simp [deliver, arrival, hq, complete, waiting, History.posted, Happening.posted?]
  | some q => simp [deliver, arrival, hq, waiting, History.posted, Happening.posted?]

/-- **One call** keeps the queue in order: what is posted goes to its end, what is drained comes
from its front. -/
theorem waiting_act (x : Exchange) (c : Call) :
    x.waiting ++ History.posted (x.happenings c)
      = History.drained (x.happenings c) ++ (x.act c).1.waiting := by
  cases c with
  | request t =>
      obtain ⟨h, ⟨openings, interrupted, e⟩, -⟩ | ⟨s, h, e⟩ := request_cases x t
      · rw [e, h]
        exact List.append_nil _
      · rw [e, h]
        have hd : History.drained [.asked, x.arrival s] = [] := by
          unfold arrival
          cases x.queue <;> rfl
        rw [hd, List.nil_append]
        exact (waiting_deliver { x with awaiting := true, openings := x.openings + 1 } s).symm
  | deliver s =>
      have hd : History.drained [x.arrival s] = [] := by
        unfold arrival
        cases x.queue <;> rfl
      simp only [happenings, hd, List.nil_append]
      exact (waiting_deliver x s).symm
  | complete s => exact List.append_nil _
  | drain =>
      have hp : History.posted (x.happenings .drain) = [] := by
        simp [happenings, History.posted, List.filterMap_map, Function.comp_def, Happening.posted?]
      have hd : History.drained (x.happenings .drain) = x.waiting := by
        simp [happenings, History.drained, List.filterMap_map, Function.comp_def, Happening.drained?]
      have hw : (x.act .drain).1.waiting = [] := by
        rw [act_drain]
        cases x.queue <;> rfl
      rw [hp, hd, hw]
  | consume v h dest =>
      obtain ⟨v', h', f, e⟩ | ⟨p, v', h', hp, -, e⟩ := consume_outcome x v h dest
      · rw [happenings_consume_error (congrArg Consumption.result e)]
        simp only [act, e]
        exact List.append_nil _
      · rw [happenings_consume_ok hp (congrArg Consumption.result e)]
        simp only [act, e]
        exact List.append_nil _
  | give d name text => exact List.append_nil _
  | close => exact List.append_nil _

/-- **A run** keeps the queue in order. -/
theorem waiting_after (x : Exchange) (cs : List Call) :
    x.waiting ++ History.posted (x.history cs)
      = History.drained (x.history cs) ++ (x.after cs).waiting := by
  induction cs generalizing x with
  | nil => exact List.append_nil _
  | cons c cs ih =>
      have hstep := waiting_act x c
      have hrun := ih (x.act c).1
      simp only [History.posted, History.drained, history, after, List.filterMap_append] at hstep hrun ⊢
      rw [← List.append_assoc, hstep, List.append_assoc, hrun, List.append_assoc]

theorem posted_happenings {x : Exchange} (hq : x.queue.isSome) (c : Call) :
    History.posted (x.happenings c) = (x.delivered? c).toList := by
  obtain ⟨q, hq⟩ := Option.isSome_iff_exists.mp hq
  cases c with
  | request t =>
      cases hd : x.delivered? (.request t) <;>
        simp [happenings, hd, History.posted, List.filterMap_cons, Happening.posted?, arrival, hq]
  | deliver s => simp [happenings, delivered?, History.posted, Happening.posted?, arrival, hq]
  | drain =>
      simp [happenings, delivered?, History.posted, List.filterMap_map, Function.comp_def,
        Happening.posted?]
  | consume v h dest =>
      simp only [happenings, delivered?]
      split <;> simp [History.posted, Happening.posted?]
  | _ => rfl

theorem posted_history {c : ExchangeConfig} {x : Exchange} (hx : x.Keeps c) (hc : c.queued = true)
    (cs : List Call) : History.posted (x.history cs) = x.delivered cs := by
  induction cs generalizing x with
  | nil => rfl
  | cons call cs ih =>
      have hstep := posted_happenings (hx.queued.trans hc) call
      have hrun := ih (hx.act call)
      simp only [History.posted, history, delivered, List.filterMap_append] at hstep hrun ⊢
      rw [hstep, hrun]

/-! ### Fates -/

/-- What became of a choice that was applied. -/
inductive Fate
  | pending
  | consumed
  | dropped
deriving DecidableEq

/-- The files of one fate, in order. -/
def filesOf (f : Fate) (account : List (Selection × Fate)) : List Selection :=
  (account.filter fun e => e.2 = f).map Prod.fst

theorem filesOf_append (f : Fate) (a b : List (Selection × Fate)) :
    filesOf f (a ++ b) = filesOf f a ++ filesOf f b := by
  simp [filesOf]

theorem filesOf_sublist (f : Fate) (a : List (Selection × Fate)) :
    (filesOf f a).Sublist (a.map Prod.fst) :=
  List.filter_sublist.map Prod.fst

/-- The books of an exchange: `past` lists the choices whose fate is settled.  They are all that
were ever applied, but for the pending one; the last of them was consumed unless another choice
took its place.  Consumed and dropped files are those of the history and of the records. -/
structure Books (x : Exchange) (h : History) (j : Journal) (past : List (Selection × Fate)) :
    Prop where
  settled : ∀ e ∈ past, e.2 ≠ .pending
  last : x.pending = none → ∀ e ∈ past.getLast?, e.2 = .consumed
  applied : h.applied = past.map Prod.fst ++ (x.pending.map Pending.selection).toList
  consumed : h.consumed = filesOf .consumed past
  readyFiles : Notice.ready.files j = h.applied.map Selection.name
  consumedFiles : Notice.consumed.files j = h.consumed.map Selection.name
  replacedFiles : Notice.replaced.files j = (filesOf .dropped past).map Selection.name

theorem books_new (c : ExchangeConfig) : Books (new c) [] [] [] where
  settled := by simp
  last := by simp
  applied := rfl
  consumed := rfl
  readyFiles := rfl
  consumedFiles := rfl
  replacedFiles := rfl

section books
variable {x : Exchange} {h : History} {j : Journal} {past : List (Selection × Fate)}

/-- Happenings and records that concern no file leave the books as they are. -/
theorem Books.frame (hb : Books x h j past) {y : Exchange} {es : History} {k : Journal}
    (hp : y.pending = x.pending) (ha : es.applied = []) (hc : es.consumed = [])
    (hk : ∀ n : Notice, n.files k = []) : Books y (h ++ es) (j ++ k) past := by
  have happ : History.applied (h ++ es) = h.applied := by
    rw [History.applied_append, ha, List.append_nil]
  have hcon : History.consumed (h ++ es) = h.consumed := by
    rw [History.consumed_append, hc, List.append_nil]
  constructor
  · exact hb.settled
  · rw [hp]
    exact hb.last
  · rw [happ, hp, hb.applied]
  · rw [hcon, hb.consumed]
  · rw [Notice.files_append, hk, List.append_nil, happ, hb.readyFiles]
  · rw [Notice.files_append, hk, List.append_nil, hcon, hb.consumedFiles]
  · rw [Notice.files_append, hk, List.append_nil, hb.replacedFiles]

/-- What completing a choice tells: the choice is ready, and the file it replaces is dropped. -/
theorem files_complete (n : Notice) (x : Exchange) (s : Selection) :
    n.files (x.complete s).2 = match n with
      | .ready => [s.name]
      | .replaced => (x.pending.map Pending.name).toList
      | .consumed => [] := by
  cases n <;> cases hp : x.pending <;>
    simp [complete, hp, Notice.files, Notice.file?, Notice.message, Notice.key, Record.info]

/-- Completing a choice settles the fate of the file that was pending: it is dropped. -/
theorem Books.complete (hb : Books x h j past) {e : Happening} {s : Selection}
    (ha : e.applied? = some s) (hc : e.consumed? = none) :
    ∃ past', Books (x.complete s).1 (h ++ [e]) (j ++ (x.complete s).2) past' := by
  have happ : History.applied (h ++ [e]) = h.applied ++ [s] := by
    rw [History.applied_append]
    simp [History.applied, ha]
  have hcon : History.consumed (h ++ [e]) = h.consumed := by
    rw [History.consumed_append]
    simp [History.consumed, hc]
  refine ⟨past ++ (x.pending.map fun p => (p.selection, Fate.dropped)).toList, ?_⟩
  constructor
  · intro d hd
    rcases List.mem_append.mp hd with hd | hd
    · exact hb.settled d hd
    · obtain ⟨p, -, rfl⟩ := Option.map_eq_some_iff.mp (Option.mem_toList.mp hd)
      simp
  · intro hp
    cases hp
  · rw [happ, hb.applied]
    cases x.pending <;> simp [Exchange.complete, Pending.selection]
  · rw [hcon, hb.consumed, filesOf_append]
    cases x.pending <;> simp [filesOf]
  · rw [Notice.files_append, files_complete, happ, hb.readyFiles]
    simp
  · rw [Notice.files_append, files_complete, hcon, hb.consumedFiles]
    simp
  · rw [Notice.files_append, files_complete, hb.replacedFiles, filesOf_append]
    cases x.pending <;> simp [filesOf, Pending.selection]

theorem Books.completeAll (hb : Books x h j past) (ss : List Selection) :
    ∃ past', Books (x.completeAll ss).1 (h ++ ss.map Happening.drained)
      (j ++ (x.completeAll ss).2) past' := by
  induction ss generalizing x h j past with
  | nil => exact ⟨past, by simpa [Exchange.completeAll] using hb⟩
  | cons s ss ih =>
      obtain ⟨past', hb'⟩ := hb.complete (e := .drained s) rfl rfl
      obtain ⟨past'', hb''⟩ := ih hb'
      exact ⟨past'', by simpa [Exchange.completeAll] using hb''⟩

theorem Books.deliver (hb : Books x h j past) (s : Selection) :
    ∃ past', Books (x.deliver s).1 (h ++ [x.arrival s]) (j ++ (x.deliver s).2) past' := by
  unfold Exchange.deliver arrival
  cases x.queue with
  | none => exact hb.complete rfl rfl
  | some q => exact ⟨past, hb.frame rfl rfl rfl fun _ => rfl⟩

theorem Books.request (hb : Books x h j past) (t : FileTree) :
    ∃ past', Books (x.act (.request t)).1 (h ++ x.happenings (.request t))
      (j ++ (x.act (.request t)).2) past' := by
  obtain ⟨hh, ⟨openings, interrupted, e⟩, hsaid⟩ | ⟨s, hh, e⟩ := request_cases x t
  · have hquiet : ∀ n : Notice, n.files (x.act (.request t)).2 = [] := by
      intro n
      apply n.files_eq_nil
      intro r hr heq
      have hmem := hsaid r hr
      rw [heq] at hmem
      cases n <;> simp [Notice.message, requestMessages] at hmem
    rw [hh]
    exact ⟨past, hb.frame (by rw [e]) rfl rfl hquiet⟩
  · -- The wish and the opened picker come first; then the choice arrives.
    have hopened : ∀ n : Notice, n.files [.debug component "Opening file picker"] = [] := by
      intro n
      apply n.files_eq_nil
      cases n <;> simp [Notice.message, Record.debug]
    have hasked : Books { x with awaiting := true, openings := x.openings + 1 } (h ++ [.asked])
        (j ++ [.debug component "Opening file picker"]) past :=
      hb.frame rfl rfl rfl hopened
    obtain ⟨past', hb'⟩ := hasked.deliver s
    rw [List.append_assoc, List.append_assoc] at hb'
    rw [hh, e]
    exact ⟨past', hb'⟩

theorem Books.consume (hb : Books x h j past) (v : View) (m : Heap) (dest : UInt32) :
    ∃ past', Books (x.consume v m dest).exchange (h ++ x.happenings (.consume v m dest))
      (j ++ (x.consume v m dest).log) past' := by
  obtain ⟨v', m', f, e⟩ | ⟨p, v', m', hp, -, e⟩ := consume_outcome x v m dest
  · rw [happenings_consume_error (congrArg Consumption.result e), e]
    exact ⟨past, hb.frame rfl rfl rfl fun _ => rfl⟩
  · rw [happenings_consume_ok hp (congrArg Consumption.result e), e]
    refine ⟨past ++ [(p.selection, .consumed)], ?_⟩
    constructor
    · intro d hd
      rcases List.mem_append.mp hd with hd | hd
      · exact hb.settled d hd
      · rw [List.mem_singleton.mp hd]
        simp
    · intro _ d hd
      rw [List.getLast?_concat, Option.mem_some_iff] at hd
      rw [← hd]
    · rw [History.applied_append, hb.applied, hp]
      simp [History.applied, Happening.applied?]
    · rw [History.consumed_append, hb.consumed, filesOf_append]
      rfl
    · rw [Notice.files_append, History.applied_append, List.map_append, hb.readyFiles]
      rfl
    · rw [Notice.files_append, History.consumed_append, List.map_append, hb.consumedFiles]
      rfl
    · rw [Notice.files_append, filesOf_append, List.map_append, hb.replacedFiles]
      rfl

theorem files_give (n : Notice) (x : Exchange) (d : Deliveries) (name text : String) :
    n.files (x.give d name text).2.2 = [] := by
  apply n.files_eq_nil
  intro r hr
  have hm : r.message ∈ ["Artifact dropped, no sink configured", "Artifact delivered"] := by
    simp only [give] at hr
    split at hr
    · rw [List.mem_singleton.mp hr]
      simp [Record.warn]
    · split at hr
      · cases hr
      · rw [List.mem_singleton.mp hr]
        simp [Record.info]
  intro heq
  rw [heq] at hm
  cases n <;> simp [Notice.message] at hm

/-- **One call** keeps the books. -/
theorem Books.act (hb : Books x h j past) (c : Call) :
    ∃ past', Books (x.act c).1 (h ++ x.happenings c) (j ++ (x.act c).2) past' := by
  cases c with
  | request t => exact hb.request t
  | deliver s => exact hb.deliver s
  | complete s => exact hb.complete rfl rfl
  | drain =>
      rw [act_drain]
      obtain ⟨past', hb'⟩ := hb.completeAll x.waiting
      exact ⟨past', hb'.1, hb'.2, hb'.3, hb'.4, hb'.5, hb'.6, hb'.7⟩
  | consume v m dest => exact hb.consume v m dest
  | give d name text => exact ⟨past, hb.frame rfl rfl rfl fun n => files_give n x d name text⟩
  | close => exact ⟨past, hb.frame rfl rfl rfl fun _ => rfl⟩

/-- **A run** keeps the books. -/
theorem Books.after (hb : Books x h j past) (cs : List Call) :
    ∃ past', Books (x.after cs) (h ++ x.history cs) (j ++ x.told cs) past' := by
  induction cs generalizing x h j past with
  | nil => exact ⟨past, by simpa [Exchange.after, history, told] using hb⟩
  | cons c cs ih =>
      obtain ⟨past', hb'⟩ := hb.act c
      obtain ⟨past'', hb''⟩ := ih hb'
      exact ⟨past'', by simpa [Exchange.after, history, told] using hb''⟩

end books

/-! ### The whole account -/

/-- Every choice that was applied has one fate: all but the last were consumed or dropped, the last
one is pending or was consumed.  The files of each fate are those that are pending, that were handed
to the guest, and that the records call dropped. -/
structure Accounted (x : Exchange) (h : History) (j : Journal) (account : List (Selection × Fate)) :
    Prop where
  applied : account.map Prod.fst = h.applied
  earlier : ∀ e ∈ account.dropLast, e.2 = .consumed ∨ e.2 = .dropped
  last : ∀ e ∈ account.getLast?, e.2 = .pending ∨ e.2 = .consumed
  pending : filesOf .pending account = (x.pending.map Pending.selection).toList
  consumed : filesOf .consumed account = h.consumed
  dropped : (filesOf .dropped account).map Selection.name = Notice.replaced.files j

theorem Books.accounted {x : Exchange} {h : History} {j : Journal} {past : List (Selection × Fate)}
    (hb : Books x h j past) : ∃ account, Accounted x h j account := by
  have hpast : ∀ e ∈ past, e.2 = .consumed ∨ e.2 = .dropped := by
    intro e he
    have hne := hb.settled e he
    cases hf : e.2 with
    | pending => exact absurd hf hne
    | consumed => exact .inl rfl
    | dropped => exact .inr rfl
  have hnone : filesOf .pending past = [] := by
    simp only [filesOf, List.map_eq_nil_iff, List.filter_eq_nil_iff, decide_eq_true_eq]
    exact hb.settled
  cases hp : x.pending with
  | none =>
      refine ⟨past, ?_, ?_, ?_, ?_, ?_, ?_⟩
      · rw [hb.applied, hp]
        simp
      · intro e he
        exact hpast e ((List.dropLast_sublist past).subset he)
      · intro e he
        exact .inr (hb.last hp e he)
      · rw [hnone, hp]
        rfl
      · exact hb.consumed.symm
      · exact hb.replacedFiles.symm
  | some p =>
      refine ⟨past ++ [(p.selection, .pending)], ?_, ?_, ?_, ?_, ?_, ?_⟩
      · rw [hb.applied, hp]
        simp
      · rw [List.dropLast_concat]
        exact hpast
      · intro e he
        rw [List.getLast?_concat, Option.mem_some_iff] at he
        exact .inl (he ▸ rfl)
      · rw [filesOf_append, hnone, hp]
        rfl
      · rw [filesOf_append, hb.consumed]
        exact List.append_nil _
      · rw [filesOf_append, List.map_append, hb.replacedFiles]
        exact List.append_nil _

/-- The file that counts as consumed is the one written at the address the guest asked for. -/
theorem consume_hands_over {x : Exchange} {v : View} {m : Heap} {dest : UInt32} {n : Nat}
    (hr : (x.consume v m dest).result = .ok n) :
    ∃ s, x.happenings (.consume v m dest) = [.consumed s] ∧ n = s.data.size ∧
      v.write m dest s.data = ((x.consume v m dest).view, (x.consume v m dest).heap, .ok ()) := by
  obtain ⟨v', m', f, e⟩ | ⟨p, v', m', hp, hw, e⟩ := consume_outcome x v m dest
  · rw [e] at hr
    cases hr
  · refine ⟨p.selection, happenings_consume_ok hp hr, ?_, ?_⟩
    · rw [e] at hr
      cases hr
      rfl
    · rw [e]
      exact hw

/-- **No choice is lost, duplicated or reordered**, in any run of an exchange with a queue.  What the
picker delivered is what drains applied, followed by what waits.  Every applied choice is accounted
for, the consumed files come in the order in which they were applied, and the records name exactly
the files that became ready, were consumed and were dropped.  A file counts as consumed exactly when
it was written into guest memory. -/
theorem selections_accounted (c : ExchangeConfig) (cs : List Call) :
    let x₀ := new { c with queued := true }
    let x := x₀.after cs
    let h := x₀.history cs
    let j := x₀.told cs
    x₀.delivered cs = h.drained ++ x.waiting ∧
    (∃ account, Accounted x h j account) ∧
    h.consumed.Sublist h.applied ∧
    Notice.ready.files j = h.applied.map Selection.name ∧
    Notice.consumed.files j = h.consumed.map Selection.name ∧
    (∀ y : Exchange, ∀ v m dest n, (y.consume v m dest).result = .ok n →
      ∃ s, y.happenings (.consume v m dest) = [.consumed s] ∧ n = s.data.size ∧
        v.write m dest s.data = ((y.consume v m dest).view, (y.consume v m dest).heap, .ok ())) ∧
    (∀ y : Exchange, ∀ v m dest f, (y.consume v m dest).result = .error f →
      y.happenings (.consume v m dest) = []) := by
  intro x₀ x h j
  obtain ⟨past, hb⟩ := (books_new { c with queued := true }).after cs
  simp only [List.nil_append] at hb
  obtain ⟨account, hacc⟩ := hb.accounted
  refine ⟨?_, ⟨account, hacc⟩, ?_, hb.readyFiles, hb.consumedFiles, ?_, ?_⟩
  · rw [← posted_history (keeps_new { c with queued := true }) rfl cs]
    exact waiting_after x₀ cs
  · rw [← hacc.consumed, ← hacc.applied]
    exact filesOf_sublist .consumed account
  · intro y v m dest n hr
    exact consume_hands_over hr
  · intro y v m dest f hr
    exact happenings_consume_error hr

end Exchange
end GuestHost
