import GuestHost.Exchange
import Mathlib.Data.List.DropRight

/-! # What happens to an exchange

An exchange is used by calls in any order.  Every call comes with the surroundings it meets: the
files there are, the view and the memories, what was delivered so far.  So a list of calls stands
for a whole run, whatever else goes on around the exchange.

* **Calls** (`Exchange.Call`).  `Exchange.act` carries one out with the operations of the exchange;
  `Exchange.after` and `Exchange.told` give the exchange and the records after a list of calls.
* **Happenings** (`Exchange.Happening`).  A call makes some things happen: a file is asked for, a
  choice is posted, a choice becomes the pending file, the pending file is consumed.
  `Exchange.history` lists them for a run, oldest first.
* **The slot** (`Exchange.Slot`).  The pending file and the wish for one are all that the handshake
  reads.  One call changes the slot as its happenings say (`slot_act`), hence so does a whole run
  (`slot_after`). -/

namespace GuestHost

/-- The choice that became a pending file. -/
def Pending.selection (p : Pending) : Selection := ⟨p.name, p.data⟩

namespace Exchange

/-- A call on an exchange, with the surroundings it meets. -/
inductive Call
  | request (files : FileTree)
  | deliver (s : Selection)
  | complete (s : Selection)
  | drain
  | consume (view : View) (heap : Heap) (dest : UInt32)
  | give (deliveries : Deliveries) (name text : String)
  | close

/-- Carries out a call: the exchange after it and the records it wrote. -/
def act (x : Exchange) : Call → Exchange × Journal
  | .request t => ((x.request t).1, (x.request t).2.2)
  | .deliver s => x.deliver s
  | .complete s => x.complete s
  | .drain => (x.drain.1, x.drain.2.2)
  | .consume v h dest => ((x.consume v h dest).exchange, (x.consume v h dest).log)
  | .give d name text => (x, (x.give d name text).2.2)
  | .close => (x.close, [])

/-- The exchange after calls. -/
def after (x : Exchange) : List Call → Exchange
  | [] => x
  | c :: cs => (x.act c).1.after cs

/-- The records that calls write. -/
def told (x : Exchange) : List Call → Journal
  | [] => []
  | c :: cs => (x.act c).2 ++ (x.act c).1.told cs

/-- The choices that wait in the queue. -/
def waiting (x : Exchange) : List Selection :=
  match x.queue with
  | some q => q.waiting
  | none => []

/-- What comes of opening the picker now. -/
def opening? (x : Exchange) (t : FileTree) : Option Opening :=
  x.picker.map fun picker => ((picker x.openings).settled t).2.1

/-- The choice that the picker hands over during a call. -/
def delivered? (x : Exchange) : Call → Option Selection
  | .deliver s => some s
  | .request t =>
    match x.opening? t with
    | some (.delivers s) => some s
    | _ => none
  | _ => none

/-- What can happen to an exchange. -/
inductive Happening
  /-- A file was asked for. -/
  | asked
  /-- A choice was put into the queue. -/
  | posted (s : Selection)
  /-- A choice from the queue became the pending file. -/
  | drained (s : Selection)
  /-- A choice became the pending file without waiting. -/
  | completed (s : Selection)
  /-- The pending file was copied into guest memory. -/
  | consumed (s : Selection)
deriving DecidableEq

/-- What happens when the picker hands a choice over. -/
def arrival (x : Exchange) (s : Selection) : Happening :=
  match x.queue with
  | some _ => .posted s
  | none => .completed s

/-- Happenings in the order in which they came. -/
abbrev History := List Happening

/-- What a call makes happen, in order. -/
def happenings (x : Exchange) : Call → History
  | .request t => .asked :: (x.delivered? (.request t)).toList.map x.arrival
  | .deliver s => [x.arrival s]
  | .complete s => [.completed s]
  | .drain => x.waiting.map .drained
  | .consume v h dest =>
    match x.pending, (x.consume v h dest).result with
    | some p, .ok _ => [.consumed p.selection]
    | _, _ => []
  | .give .. => []
  | .close => []

/-- What calls make happen, in order. -/
def history (x : Exchange) : List Call → History
  | [] => []
  | c :: cs => x.happenings c ++ (x.act c).1.history cs

theorem history_singleton (x : Exchange) (c : Call) : x.history [c] = x.happenings c :=
  List.append_nil _

theorem after_append (x : Exchange) (cs ds : List Call) :
    x.after (cs ++ ds) = (x.after cs).after ds := by
  induction cs generalizing x with
  | nil => rfl
  | cons c cs ih => exact ih (x.act c).1

theorem history_append (x : Exchange) (cs ds : List Call) :
    x.history (cs ++ ds) = x.history cs ++ (x.after cs).history ds := by
  induction cs generalizing x with
  | nil => rfl
  | cons c cs ih => simp [history, after, ih]

namespace Happening

/-- The choice that became the pending file. -/
def applied? : Happening → Option Selection
  | drained s | completed s => some s
  | _ => none

/-- The file that was consumed. -/
def consumed? : Happening → Option Selection
  | consumed s => some s
  | _ => none

end Happening

namespace History

/-- The choices that became the pending file, in order. -/
def applied (h : History) : List Selection := h.filterMap Happening.applied?

/-- The files that were consumed, in order. -/
def consumed (h : History) : List Selection := h.filterMap Happening.consumed?

theorem applied_append (g h : History) : applied (g ++ h) = g.applied ++ h.applied :=
  List.filterMap_append

theorem consumed_append (g h : History) : consumed (g ++ h) = g.consumed ++ h.consumed :=
  List.filterMap_append

end History

/-! ### Draining is completing one by one -/

/-- Makes choices the pending file one after the other. -/
def completeAll (x : Exchange) : List Selection → Exchange × Journal
  | [] => (x, [])
  | s :: ss => (((x.complete s).1.completeAll ss).1,
      (x.complete s).2 ++ ((x.complete s).1.completeAll ss).2)

theorem runAll_apply (x : Exchange) (log : Journal) (ss : List Selection) :
    EventQueue.runAll apply (x, log) ss
      = (((x.completeAll ss).1, log ++ (x.completeAll ss).2), []) := by
  induction ss generalizing x log with
  | nil => simp [EventQueue.runAll, completeAll]
  | cons s ss ih => simp [EventQueue.runAll, apply, completeAll, ih]

theorem act_drain (x : Exchange) :
    x.act .drain = ({ (x.completeAll x.waiting).1 with queue := x.queue.map fun _ => {} },
      (x.completeAll x.waiting).2) := by
  cases hq : x.queue with
  | none =>
      have hx : ({ x with queue := none } : Exchange) = x := by cases x; subst hq; rfl
      simp [act, drain, waiting, hq, completeAll, hx]
  | some q => simp [act, drain, waiting, hq, EventQueue.drain, runAll_apply]

/-! ### Asking for a file -/

/-- What can be said when a file is asked for, as long as none is handed over. -/
def requestMessages : List String :=
  ["File import requested but no picker is configured", "Opening file picker",
    "Failed to open file picker", "Waiting for a file in the inbox"]

theorem message_of_settled {t : FileTree} {o : Opening} {r : Record}
    (hr : r ∈ (o.settled t).2.2) : r.message ∈ requestMessages := by
  cases o with
  | watches directory =>
      rcases hm : t.makeDirectories directory with ⟨t', f | u⟩ <;>
        simp only [Opening.settled, Opening.watch, hm] at hr
      · cases hr
      · rw [List.mem_singleton.mp hr]
        simp [requestMessages, Record.info]
  | _ => cases hr

/-- Asking only notes the wish, unless the picker hands a choice over at once. -/
theorem request_cases (x : Exchange) (t : FileTree) :
    (x.happenings (.request t) = [.asked] ∧ (∃ openings interrupted,
      (x.act (.request t)).1 = { x with awaiting := true, openings, interrupted }) ∧
      ∀ r ∈ (x.act (.request t)).2, r.message ∈ requestMessages) ∨
    (∃ s, x.happenings (.request t) = [.asked, x.arrival s] ∧
      x.act (.request t) = (({ x with awaiting := true, openings := x.openings + 1 }.deliver s).1,
        .debug component "Opening file picker"
          :: ({ x with awaiting := true, openings := x.openings + 1 }.deliver s).2)) := by
  simp only [happenings, delivered?, opening?, act, request]
  cases hp : x.picker with
  | none =>
      refine .inl ⟨rfl, ⟨x.openings, x.interrupted, rfl⟩, ?_⟩
      simp [requestMessages, Record.warn]
  | some picker =>
      simp only [Option.map_some]
      have hsaid := fun r => message_of_settled (t := t) (o := picker x.openings) (r := r)
      cases ((picker x.openings).settled t).2.1 with
      | delivers s => exact .inr ⟨s, rfl, rfl⟩
      | fails why =>
          refine .inl ⟨rfl, ⟨x.openings + 1, x.interrupted, rfl⟩, ?_⟩
          simp [requestMessages, Record.debug, Record.error]
      | interrupts =>
          refine .inl ⟨rfl, ⟨x.openings + 1, true, rfl⟩, ?_⟩
          simp [requestMessages, Record.debug]
      | _ =>
          refine .inl ⟨rfl, ⟨x.openings + 1, x.interrupted, rfl⟩, ?_⟩
          intro r hr
          rcases List.mem_cons.mp hr with rfl | hr
          · simp [requestMessages, Record.debug]
          · exact hsaid r hr

/-! ### Consuming -/

/-- The record of a consumed file. -/
def consumedRecord (p : Pending) (dest : UInt32) : Record :=
  .debug component "File consumed by guest"
    [("name", .text p.name), ("dest", .whole dest.toNat), ("size_bytes", .whole p.data.size)]

/-- Consuming does nothing without a pending file, leaves the exchange alone when the file cannot be
written, and clears the slot otherwise. -/
theorem consume_cases (x : Exchange) (v : View) (h : Heap) (dest : UInt32) :
    (x.pending = none ∧ x.consume v h dest = ⟨x, v, h, .error (.notReady x.stage), []⟩) ∨
    (∃ p v' h' f, x.pending = some p ∧ v.write h dest p.data = (v', h', .error f) ∧
      x.consume v h dest = ⟨x, v', h', .error f, []⟩) ∨
    (∃ p v' h', x.pending = some p ∧ v.write h dest p.data = (v', h', .ok ()) ∧
      x.consume v h dest
        = ⟨{ x with pending := none }, v', h', .ok p.data.size, [consumedRecord p dest]⟩) := by
  cases hp : x.pending with
  | none => exact .inl ⟨rfl, by simp [consume, hp]⟩
  | some p =>
      rcases hw : v.write h dest p.data with ⟨v', h', r⟩
      cases r with
      | error f => exact .inr (.inl ⟨p, v', h', f, rfl, hw, by simp [consume, hp, hw]⟩)
      | ok u => exact .inr (.inr ⟨p, v', h', rfl, hw, by simp [consume, hp, hw, consumedRecord]⟩)

/-- Consuming either fails and leaves the exchange alone, or hands the pending file over. -/
theorem consume_outcome (x : Exchange) (v : View) (h : Heap) (dest : UInt32) :
    (∃ v' h' f, x.consume v h dest = ⟨x, v', h', .error f, []⟩) ∨
    (∃ p v' h', x.pending = some p ∧ v.write h dest p.data = (v', h', .ok ()) ∧
      x.consume v h dest
        = ⟨{ x with pending := none }, v', h', .ok p.data.size, [consumedRecord p dest]⟩) := by
  obtain ⟨-, e⟩ | ⟨-, v', h', f, -, -, e⟩ | hok := consume_cases x v h dest
  · exact .inl ⟨v, h, .notReady x.stage, e⟩
  · exact .inl ⟨v', h', f, e⟩
  · exact .inr hok

theorem happenings_consume_error {x : Exchange} {v : View} {h : Heap} {dest : UInt32} {f : Fault}
    (hr : (x.consume v h dest).result = .error f) : x.happenings (.consume v h dest) = [] := by
  unfold happenings
  cases x.pending <;> simp [hr]

theorem happenings_consume_ok {x : Exchange} {v : View} {h : Heap} {dest : UInt32} {p : Pending}
    {n : Nat} (hp : x.pending = some p) (hr : (x.consume v h dest).result = .ok n) :
    x.happenings (.consume v h dest) = [.consumed p.selection] := by
  simp [happenings, hp, hr]

/-! ### Polling -/

theorem length_congr {x y : Exchange} (h : x.pending = y.pending) : x.length = y.length := by
  simp only [length, h]

theorem tag_congr {x y : Exchange} (h : x.pending = y.pending) : x.tag = y.tag := by
  simp only [tag, h]

theorem toNat_length {x : Exchange} {p : Pending} (hp : x.pending = some p) :
    x.length.toNat = p.data.size % UInt32.size := by
  simp only [length, hp]
  rfl

/-! ### What no call changes -/

/-- The extensions and the queue are those of the configuration, and a pending file is tagged by its
name. -/
structure Keeps (c : ExchangeConfig) (x : Exchange) : Prop where
  classifier : x.classifier = c.classifier.orStandard
  queued : x.queue.isSome = c.queued
  tagged : ∀ p, x.pending = some p → p.tag = x.classifier.classify p.name

theorem keeps_new (c : ExchangeConfig) : (new c).Keeps c where
  classifier := rfl
  queued := by cases hq : c.queued <;> simp [new, hq]
  tagged := by simp [new]

section keeps
variable {c : ExchangeConfig} {x : Exchange}

theorem Keeps.complete (hx : x.Keeps c) (s : Selection) : (x.complete s).1.Keeps c where
  classifier := hx.classifier
  queued := hx.queued
  tagged := by
    intro p hp
    obtain rfl := Option.some.inj hp
    rfl

theorem Keeps.completeAll (hx : x.Keeps c) (ss : List Selection) : (x.completeAll ss).1.Keeps c := by
  induction ss generalizing x with
  | nil => exact hx
  | cons s ss ih => exact ih (hx.complete s)

theorem Keeps.deliver (hx : x.Keeps c) (s : Selection) : (x.deliver s).1.Keeps c := by
  have hqueue := hx.queued
  unfold Exchange.deliver
  cases hq : x.queue with
  | none => exact hx.complete s
  | some q =>
      rw [hq] at hqueue
      exact ⟨hx.classifier, hqueue, hx.tagged⟩

theorem Keeps.request (hx : x.Keeps c) (t : FileTree) : (x.act (.request t)).1.Keeps c := by
  obtain ⟨-, ⟨openings, interrupted, e⟩, -⟩ | ⟨s, -, e⟩ := request_cases x t
  · rw [e]
    exact ⟨hx.1, hx.2, hx.3⟩
  · rw [e]
    apply Keeps.deliver
    exact ⟨hx.1, hx.2, hx.3⟩

theorem Keeps.consume (hx : x.Keeps c) (v : View) (h : Heap) (dest : UInt32) :
    (x.consume v h dest).exchange.Keeps c := by
  obtain ⟨v', h', f, e⟩ | ⟨p, v', h', -, -, e⟩ := consume_outcome x v h dest
  · rw [e]
    exact hx
  · rw [e]
    exact ⟨hx.classifier, hx.queued, by simp⟩

theorem Keeps.act (hx : x.Keeps c) (call : Call) : (x.act call).1.Keeps c := by
  cases call with
  | request t => exact hx.request t
  | deliver s => exact hx.deliver s
  | complete s => exact hx.complete s
  | drain =>
      rw [act_drain]
      have hall := hx.completeAll x.waiting
      exact ⟨hall.classifier, by simpa using hx.queued, hall.tagged⟩
  | consume v h dest => exact hx.consume v h dest
  | give d name text => exact hx
  | close => exact ⟨hx.1, hx.2, hx.3⟩

theorem Keeps.after (hx : x.Keeps c) (calls : List Call) : (x.after calls).Keeps c := by
  induction calls generalizing x with
  | nil => exact hx
  | cons call calls ih => exact ih (hx.act call)

end keeps

/-! ### The slot -/

/-- The pending file and the wish for one. -/
structure Slot where
  pending : Option Selection := none
  awaiting : Bool := false
deriving DecidableEq

/-- How a happening changes the slot. -/
def Slot.react (k : Slot) : Happening → Slot
  | .asked => { k with awaiting := true }
  | .posted _ => k
  | .drained s | .completed s => ⟨some s, false⟩
  | .consumed _ => { k with pending := none }

/-- The slot of an exchange. -/
def slot (x : Exchange) : Slot := ⟨x.pending.map Pending.selection, x.awaiting⟩

theorem slot_complete (x : Exchange) (s : Selection) : (x.complete s).1.slot = ⟨some s, false⟩ := rfl

theorem slot_deliver (x : Exchange) (s : Selection) :
    (x.deliver s).1.slot = x.slot.react (x.arrival s) := by
  unfold deliver arrival
  cases x.queue with
  | none => rfl
  | some q => rfl

theorem slot_completeAll (x : Exchange) (ss : List Selection) :
    (x.completeAll ss).1.slot = (ss.map Happening.drained).foldl Slot.react x.slot := by
  induction ss generalizing x with
  | nil => rfl
  | cons s ss ih =>
      simp only [completeAll, List.map_cons, List.foldl_cons, ih, slot_complete]
      rfl

theorem slot_request (x : Exchange) (t : FileTree) :
    (x.act (.request t)).1.slot = (x.happenings (.request t)).foldl Slot.react x.slot := by
  obtain ⟨h, ⟨openings, interrupted, e⟩, -⟩ | ⟨s, h, e⟩ := request_cases x t
  · rw [e, h]
    rfl
  · rw [e, h, slot_deliver]
    rfl

theorem slot_consume (x : Exchange) (v : View) (h : Heap) (dest : UInt32) :
    (x.consume v h dest).exchange.slot
      = (x.happenings (.consume v h dest)).foldl Slot.react x.slot := by
  obtain ⟨v', h', f, e⟩ | ⟨p, v', h', hp, -, e⟩ := consume_outcome x v h dest
  · rw [happenings_consume_error (congrArg Consumption.result e), e]
    rfl
  · rw [happenings_consume_ok hp (congrArg Consumption.result e), e]
    rfl

/-- **One call** changes the slot as its happenings say. -/
theorem slot_act (x : Exchange) (c : Call) :
    (x.act c).1.slot = (x.happenings c).foldl Slot.react x.slot := by
  cases c with
  | request t => exact slot_request x t
  | deliver s => exact slot_deliver x s
  | complete s => rfl
  | drain =>
      rw [act_drain]
      exact slot_completeAll x x.waiting
  | consume v h dest => exact slot_consume x v h dest
  | give d name text => rfl
  | close => rfl

/-- **A run** changes the slot as its history says. -/
theorem slot_after (x : Exchange) (cs : List Call) :
    (x.after cs).slot = (x.history cs).foldl Slot.react x.slot := by
  induction cs generalizing x with
  | nil => rfl
  | cons c cs ih =>
      simp only [after, history, List.foldl_append]
      rw [ih, slot_act]

end Exchange
end GuestHost
