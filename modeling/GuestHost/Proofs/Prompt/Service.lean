import GuestHost.Prompt
import GuestHost.Proofs.Bridge.Polling

/-! # Requests at a terminal

A guest asks for files, and the user chooses them at one prompt.  Meanwhile the host goes on: it
applies choices, the guest imports files and asks for more.  Both go on in steps that may come in any
order (`Prompt.Scene`, `Prompt.Act`).

* A request is **served** as long as the prompt shows, or a choice waits to be applied
  (`Scene.Served`).
* It is **overlooked** when it comes while the terminal is being given back and no choice waits
  (`Happening.overlooked`): the prompt ignores it, and what it had shown is over already.

`requests_served_unless_overlooked` says that this is the only way for a request to get lost, and that
such a request stays lost until the guest asks again.  A guest that asks for the next file right after
the import of one can come to it (`request_after_import_overlooked`). -/

namespace GuestHost
namespace Prompt

/-- A bridge with the memories there are, and the prompt at which its files are chosen. -/
structure Scene where
  bridge : Bridge
  heap : Heap := {}
  prompt : Prompt := .free

/-- What the host, the user and the terminal can do. -/
inductive Act
  /-- The guest asks for a file.  The terminal may refuse to present the prompt. -/
  | request (refusal : Option Fault)
  /-- The host applies the choices that wait. -/
  | dispatch
  /-- The guest imports the pending file. -/
  | importFile (dest : UInt32)
  /-- The view follows another memory. -/
  | bind (m : Binding)
  /-- Something happens to memories. -/
  | memory (c : Heap.Change)
  /-- A line is read; the file that it names is loaded and delivered. -/
  | answer (files : FileTree) (typed : Bytes)
  /-- The user breaks off. -/
  | abandon
  /-- No line can be read. -/
  | fail (why : Fault)
  /-- The terminal is given back. -/
  | release

namespace Scene

/-- A bridge in which nothing was asked for yet, and a free terminal. -/
def new (o : BridgeOptions) : Scene := { bridge := .new o }

/-- The bridge whose picker comes to this when it is opened. -/
def picking (x : Scene) (o : Opening) : Bridge :=
  { x.bridge with exchange := { x.bridge.exchange with picker := some fun _ => o } }

/-- The bridge after a choice was delivered, if there is one. -/
def delivered (x : Scene) : Option Selection → Bridge
  | none => x.bridge
  | some s => { x.bridge with exchange := (x.bridge.exchange.deliver s).1 }

/-- Carries out a call on the bridge. -/
def call (x : Scene) (c : Bridge.Call) : Scene :=
  let (bridge, heap) := Bridge.act (x.bridge, x.heap) c
  { x with bridge, heap }

/-- Carries out an act. -/
def act (x : Scene) : Act → Scene
  | .request refusal =>
    let (prompt, opening, _) := x.prompt.present refusal
    { x with bridge := (x.picking opening).request.1, prompt }
  | .dispatch => x.call .dispatch
  | .importFile dest => x.call (.importFile dest)
  | .bind m => x.call (.bind m)
  | .memory c => x.call (.memory c)
  | .answer files typed =>
    let (prompt, choice, _) := x.prompt.answer files typed
    { x with bridge := x.delivered choice, prompt }
  | .abandon => { x with prompt := x.prompt.abandon.1 }
  | .fail why => { x with prompt := (x.prompt.fail why).1 }
  | .release => { x with prompt := x.prompt.release }

/-- The scene after acts. -/
def after (x : Scene) (acts : List Act) : Scene := acts.foldl act x

/-- The choices that wait to be applied. -/
def waiting (x : Scene) : List Selection := x.bridge.exchange.waiting

/-- Whether something goes on that can bring the guest a file. -/
def Served (x : Scene) : Prop := x.prompt = .showing ∨ x.waiting ≠ []

end Scene

/-! ### Histories -/

/-- What can happen to requests. -/
inductive Happening
  | asked
  /-- The prompt could not be presented. -/
  | refused
  /-- The prompt ignored the request, and no choice waited. -/
  | overlooked
  /-- A selection was broken off, or its file could not be read. -/
  | lost
deriving DecidableEq

/-- Happenings in the order in which they came. -/
abbrev History := List Happening

/-- What happened since the latest request. -/
def History.since (h : History) : History := h.rtakeWhile (· ≠ .asked)

/-- What an act makes happen. -/
def Scene.happenings (x : Scene) : Act → History
  | .request refusal =>
    .asked :: (if x.prompt = .free ∧ refusal.isSome then [.refused] else [])
      ++ (if x.prompt = .leaving ∧ x.waiting = [] then [.overlooked] else [])
  | .answer files typed =>
    if x.prompt = .showing ∧ (x.prompt.answer files typed).2.1 = none then [.lost] else []
  | .abandon => if x.prompt = .showing then [.lost] else []
  | .fail _ => if x.prompt = .showing then [.lost] else []
  | .dispatch | .importFile _ | .bind _ | .memory _ | .release => []

/-- What acts make happen, in order. -/
def Scene.history (x : Scene) : List Act → History
  | [] => []
  | a :: acts => x.happenings a ++ (x.act a).history acts

theorem since_append {l : History} (hl : .asked ∉ l) (h : History) :
    (h ++ l).since = h.since ++ l := by
  induction l using List.reverseRecOn with
  | nil => simp
  | append_singleton l y ih =>
      obtain ⟨hl, hy⟩ : .asked ∉ l ∧ .asked ≠ y := by simpa using hl
      rw [← List.append_assoc, History.since, List.rtakeWhile_concat_pos _ _ _ (by simpa using hy.symm),
        ← History.since, ih hl, List.append_assoc]

theorem since_asked {l : History} (hl : .asked ∉ l) (h : History) :
    (h ++ .asked :: l).since = l := by
  rw [← List.singleton_append, ← List.append_assoc, since_append hl]
  simp [History.since]

/-! ### One act -/

theorem awaiting_completeAll (x : Exchange) (ss : List Selection) :
    (x.completeAll ss).1.awaiting = (x.awaiting && ss.isEmpty) := by
  induction ss generalizing x with
  | nil => simp [Exchange.completeAll]
  | cons s ss ih => simp [Exchange.completeAll, ih, Exchange.complete]

theorem awaiting_consume (x : Exchange) (v : View) (h : Heap) (dest : UInt32) :
    (x.consume v h dest).exchange.awaiting = x.awaiting ∧
      (x.consume v h dest).exchange.queue = x.queue := by
  obtain ⟨v', h', f, e⟩ | ⟨p, v', h', -, -, e⟩ := x.consume_outcome v h dest
  · rw [e]
    exact ⟨rfl, rfl⟩
  · rw [e]
    exact ⟨rfl, rfl⟩

/-- A prompt delivers nothing while it is being presented, so that asking only notes the wish. -/
theorem request_picking (x : Scene) (refusal : Option Fault) :
    let b := (x.picking (x.prompt.present refusal).2.1).request.1
    b.exchange.awaiting = true ∧ b.exchange.queue = x.bridge.exchange.queue := by
  have hopening : (x.prompt.present refusal).2.1 = .waits ∨
      ∃ why, (x.prompt.present refusal).2.1 = .fails why := by
    cases x.prompt <;> cases refusal <;> simp [present]
  obtain h | ⟨why, h⟩ := hopening
  · simp [h, Scene.picking, Bridge.request, Exchange.request, Opening.settled]
  · simp [h, Scene.picking, Bridge.request, Exchange.request, Opening.settled]

/-- A request is refused, or the prompt shows or a choice waits, or it is overlooked. -/
theorem request_cases (x : Scene) (refusal : Option Fault) :
    x.happenings (.request refusal) = [.asked, .refused] ∨
    (x.happenings (.request refusal) = [.asked] ∧
      ((x.prompt.present refusal).1 = .showing ∨ x.waiting ≠ [])) ∨
    (x.happenings (.request refusal) = [.asked, .overlooked] ∧
      (x.prompt.present refusal).1 = .leaving ∧ x.waiting = []) := by
  cases hprompt : x.prompt with
  | free => cases refusal <;> simp [Scene.happenings, hprompt, present, Prompt.request]
  | showing => simp [Scene.happenings, hprompt, present, Prompt.request]
  | leaving =>
      by_cases hwaiting : x.waiting = []
      · simp [Scene.happenings, hprompt, present, Prompt.request, hwaiting]
      · simp [Scene.happenings, hprompt, hwaiting]

/-- How requests stand after what happened: choices wait in a queue; a wish that is left is served
unless the latest request met with an obstacle; and one that was overlooked is left and not served. -/
structure Stands (x : Scene) (h : History) : Prop where
  queued : x.bridge.exchange.queue.isSome
  served : x.bridge.exchange.awaiting = true → .refused ∉ h.since → .lost ∉ h.since →
    .overlooked ∉ h.since → x.Served
  left : .overlooked ∈ h.since → x.bridge.exchange.awaiting = true ∧ ¬ x.Served

namespace Stands

variable {x : Scene} {h : History}

theorem new (o : BridgeOptions) : Stands (.new o) [] where
  queued := rfl
  served hawaiting := by cases hawaiting
  left hmem := by simp [History.since] at hmem

/-- What keeps the wish, the queue and whether the request is served, keeps how requests stand. -/
theorem frame (hx : Stands x h) {y : Scene}
    (hawaiting : y.bridge.exchange.awaiting = x.bridge.exchange.awaiting)
    (hqueue : y.bridge.exchange.queue = x.bridge.exchange.queue)
    (hprompt : y.prompt = .showing ↔ x.prompt = .showing) : Stands y h := by
  have hserved : y.Served ↔ x.Served := by
    rw [Scene.Served, Scene.Served, hprompt, Scene.waiting, Scene.waiting, Exchange.waiting,
      Exchange.waiting, hqueue]
  constructor
  · rw [hqueue]
    exact hx.queued
  · rw [hawaiting, hserved]
    exact hx.served
  · rw [hawaiting, hserved]
    exact hx.left

/-- A prompt that does not show any more, with nothing delivered, has lost the request. -/
theorem lost (hx : Stands x h) (hshowing : x.prompt = .showing) {y : Scene}
    (hbridge : y.bridge = x.bridge) : Stands y (h ++ [.lost]) := by
  have hsince : History.since (h ++ [.lost]) = h.since ++ [.lost] := since_append (by simp) h
  constructor
  · rw [hbridge]
    exact hx.queued
  · intro _ _ hlost
    simp [hsince] at hlost
  · intro hoverlooked
    rw [hsince] at hoverlooked
    exact absurd (.inl hshowing) (hx.left (by simpa using hoverlooked)).2

theorem request (hx : Stands x h) (refusal : Option Fault) :
    Stands (x.act (.request refusal)) (h ++ x.happenings (.request refusal)) := by
  obtain ⟨hawaiting, hqueue⟩ := request_picking x refusal
  have hqueued : (x.act (.request refusal)).bridge.exchange.queue.isSome :=
    (congrArg Option.isSome hqueue).trans hx.queued
  have hserved : (x.act (.request refusal)).Served ↔
      (x.prompt.present refusal).1 = .showing ∨ x.waiting ≠ [] := by
    simp only [Scene.Served, Scene.waiting, Exchange.waiting, Scene.act, hqueue]
  obtain hhappened | ⟨hhappened, hstill⟩ | ⟨hhappened, hleaving, hnone⟩ := request_cases x refusal
  · have hsince : (h ++ x.happenings (.request refusal)).since = [.refused] := by
      rw [hhappened, since_asked (by simp)]
    refine ⟨hqueued, fun _ hrefused => ?_, fun hoverlooked => ?_⟩
    · simp [hsince] at hrefused
    · simp [hsince] at hoverlooked
  · have hsince : (h ++ x.happenings (.request refusal)).since = [] := by
      rw [hhappened, since_asked (by simp)]
    refine ⟨hqueued, fun _ _ _ _ => hserved.mpr hstill, fun hoverlooked => ?_⟩
    simp [hsince] at hoverlooked
  · have hsince : (h ++ x.happenings (.request refusal)).since = [.overlooked] := by
      rw [hhappened, since_asked (by simp)]
    refine ⟨hqueued, fun _ _ _ hnot => ?_, fun _ => ⟨hawaiting, ?_⟩⟩
    · simp [hsince] at hnot
    · rw [hserved, hleaving, hnone]
      simp

theorem dispatch (hx : Stands x h) : Stands (x.act .dispatch) h := by
  have hexchange : (x.act .dispatch).bridge.exchange
      = { (x.bridge.exchange.completeAll x.waiting).1 with
          queue := x.bridge.exchange.queue.map fun _ => {} } :=
    congrArg Prod.fst x.bridge.exchange.act_drain
  have hawaiting := awaiting_completeAll x.bridge.exchange x.waiting
  by_cases hnone : x.waiting = []
  · obtain ⟨q, hq⟩ := Option.isSome_iff_exists.mp hx.queued
    have hempty : q = {} := by
      have : q.waiting = [] := by simpa [Scene.waiting, Exchange.waiting, hq] using hnone
      cases q
      simp_all
    refine hx.frame ?_ ?_ Iff.rfl
    · rw [hexchange, hawaiting, hnone]
      simp
    · rw [hexchange, hq, hempty]
      rfl
  · have hfulfilled : (x.act .dispatch).bridge.exchange.awaiting = false := by
      rw [hexchange, hawaiting]
      simp [hnone]
    refine ⟨?_, ?_, fun hoverlooked => ?_⟩
    · rw [hexchange]
      simpa using hx.queued
    · rw [hfulfilled]
      intro hfalse
      cases hfalse
    · exact absurd (.inr hnone) (hx.left hoverlooked).2

theorem importFile (hx : Stands x h) (dest : UInt32) : Stands (x.act (.importFile dest)) h := by
  have hexchange : (x.act (.importFile dest)).bridge.exchange
      = (x.bridge.exchange.consume x.bridge.view x.heap dest).exchange :=
    congrArg Bridge.exchange (Bridge.importFile_fst x.bridge x.heap dest)
  obtain ⟨hawaiting, hqueue⟩ := awaiting_consume x.bridge.exchange x.bridge.view x.heap dest
  exact hx.frame (hexchange ▸ hawaiting) (hexchange ▸ hqueue) Iff.rfl

theorem answer (hx : Stands x h) (files : FileTree) (typed : Bytes) :
    Stands (x.act (.answer files typed)) (h ++ x.happenings (.answer files typed)) := by
  by_cases hshowing : x.prompt = .showing
  · cases hchoice : (x.prompt.answer files typed).2.1 with
    | none =>
        have hhappened : x.happenings (.answer files typed) = [.lost] := by
          simp [Scene.happenings, hshowing, ← hchoice]
        rw [hhappened]
        refine hx.lost hshowing ?_
        simp only [Scene.act, hchoice]
        rfl
    | some s =>
        have hhappened : x.happenings (.answer files typed) = [] := by
          simp [Scene.happenings, hchoice]
        obtain ⟨q, hq⟩ := Option.isSome_iff_exists.mp hx.queued
        have hexchange : (x.act (.answer files typed)).bridge.exchange
            = { x.bridge.exchange with queue := some (q.post s) } := by
          simp only [Scene.act, hchoice, Scene.delivered, Exchange.deliver, hq]
        have hserved : (x.act (.answer files typed)).Served := by
          refine .inr ?_
          rw [Scene.waiting, Exchange.waiting, hexchange]
          simp
        rw [hhappened, List.append_nil]
        refine ⟨?_, fun _ _ _ _ => hserved, fun hoverlooked => ?_⟩
        · rw [hexchange]
          rfl
        · exact absurd (.inl hshowing) (hx.left hoverlooked).2
  · -- A prompt that does not show takes no line.
    have hanswer : x.prompt.answer files typed = (x.prompt, none, []) := by
      cases hprompt : x.prompt with
      | showing => exact absurd hprompt hshowing
      | free => rfl
      | leaving => rfl
    have hhappened : x.happenings (.answer files typed) = [] := by
      simp [Scene.happenings, hshowing]
    have hsame : x.act (.answer files typed) = x := by
      simp only [Scene.act, hanswer]
      rfl
    rw [hhappened, List.append_nil, hsame]
    exact hx

theorem abandon (hx : Stands x h) : Stands (x.act .abandon) (h ++ x.happenings .abandon) := by
  cases hprompt : x.prompt with
  | showing =>
      rw [Scene.happenings, if_pos hprompt]
      exact hx.lost hprompt rfl
  | _ =>
      have hsame : (x.act .abandon).prompt = x.prompt := by simp [Scene.act, hprompt, Prompt.abandon]
      rw [Scene.happenings, if_neg (by simp [hprompt]), List.append_nil]
      exact hx.frame rfl rfl (by rw [hsame])

theorem fail (hx : Stands x h) (why : Fault) :
    Stands (x.act (.fail why)) (h ++ x.happenings (.fail why)) := by
  cases hprompt : x.prompt with
  | showing =>
      rw [Scene.happenings, if_pos hprompt]
      exact hx.lost hprompt rfl
  | _ =>
      have hsame : (x.act (.fail why)).prompt = x.prompt := by simp [Scene.act, hprompt, Prompt.fail]
      rw [Scene.happenings, if_neg (by simp [hprompt]), List.append_nil]
      exact hx.frame rfl rfl (by rw [hsame])

theorem release (hx : Stands x h) : Stands (x.act .release) h := by
  refine hx.frame rfl rfl ?_
  cases hprompt : x.prompt <;> simp [Scene.act, hprompt, Prompt.release]

/-- **One act** keeps how requests stand. -/
theorem act (hx : Stands x h) (a : Act) : Stands (x.act a) (h ++ x.happenings a) := by
  cases a with
  | request refusal => exact hx.request refusal
  | answer files typed => exact hx.answer files typed
  | abandon => exact hx.abandon
  | fail why => exact hx.fail why
  | dispatch =>
      rw [Scene.happenings, List.append_nil]
      exact hx.dispatch
  | importFile dest =>
      rw [Scene.happenings, List.append_nil]
      exact hx.importFile dest
  | release =>
      rw [Scene.happenings, List.append_nil]
      exact hx.release
  | bind m =>
      have hexchange : (x.act (.bind m)).bridge.exchange = x.bridge.exchange :=
        Bridge.exchange_act (x.bridge, x.heap) (.bind m)
      rw [Scene.happenings, List.append_nil]
      exact hx.frame (by rw [hexchange]) (by rw [hexchange]) Iff.rfl
  | memory c =>
      rw [Scene.happenings, List.append_nil]
      exact hx.frame rfl rfl Iff.rfl

/-- **All acts** keep how requests stand. -/
theorem after (hx : Stands x h) (acts : List Act) : Stands (x.after acts) (h ++ x.history acts) := by
  induction acts generalizing x h with
  | nil => simpa [Scene.after, Scene.history] using hx
  | cons a acts ih =>
      have hrest := ih (hx.act a)
      rwa [List.append_assoc] at hrest

end Stands

/-! ### Requests -/

/-- **Requests are served unless they are overlooked.**  After any acts: while the guest waits for a
file, and since its latest request the prompt was presented and no selection was broken off or failed,
the prompt shows or a choice waits, unless that request was overlooked.  A request that was overlooked
is left as it is, whatever happens until the guest asks again: it is not fulfilled, the prompt does not
show and no choice waits. -/
theorem requests_served_unless_overlooked (o : BridgeOptions) (acts : List Act) :
    let x := (Scene.new o).after acts
    let h := (Scene.new o).history acts
    (x.bridge.exchange.stage = .requested → .refused ∉ h.since → .lost ∉ h.since →
      .overlooked ∉ h.since → x.Served) ∧
    (.overlooked ∈ h.since → x.bridge.exchange.stage ≠ .idle ∧ ¬ x.Served) := by
  intro x h
  have hx : Stands x h := (Stands.new o).after acts
  constructor
  · intro hstage
    apply hx.served
    revert hstage
    simp only [Exchange.stage]
    split_ifs <;> simp_all
  · intro hoverlooked
    obtain ⟨hawaiting, hunserved⟩ := hx.left hoverlooked
    refine ⟨?_, hunserved⟩
    simp only [Exchange.stage, hawaiting, if_true]
    split_ifs <;> simp

/-- Files among which the user chooses. -/
def chosenFiles : FileTree := FileTree.start.provide "a.l3" (.file (.bytes #[1, 2]))

/-- A guest with some memory asks for a file, the user types its name, and the guest imports it. -/
def firstImport : List Act := [.memory (.allocate #[7, 7]), .bind (.memory 0), .request none,
  .answer chosenFiles "a.l3\n".toUTF8.data, .dispatch, .importFile 0]

/-- The terminal is given back before the guest asks for the next file: the prompt shows again. -/
theorem request_after_release_served :
    let acts := firstImport ++ [.release, .request none]
    ((Scene.new {}).after acts).bridge.exchange.stage = .requested ∧
      ((Scene.new {}).after acts).Served := by
  intro acts
  have hstage : ((Scene.new {}).after acts).bridge.exchange.stage = .requested := by decide +kernel
  have hsince : ((Scene.new {}).history acts).since = [] := by decide +kernel
  refine ⟨hstage, (requests_served_unless_overlooked {} acts).1 hstage ?_ ?_ ?_⟩
  · simp [hsince]
  · simp [hsince]
  · simp [hsince]

/-- **A request that is lost.**  The guest asks for the next file before the terminal is given back.
Nothing failed and nobody broke off, the guest waits for a file, and the terminal is free, yet the
prompt does not show and no choice waits. -/
theorem request_after_import_overlooked :
    let acts := firstImport ++ [.request none, .release]
    let x := (Scene.new {}).after acts
    let h := (Scene.new {}).history acts
    x.bridge.exchange.stage = .requested ∧ .refused ∉ h.since ∧ .lost ∉ h.since ∧
      x.prompt = .free ∧ x.waiting = [] := by
  intro acts x h
  have hsince : h.since = [.overlooked] := by decide +kernel
  refine ⟨by decide +kernel, ?_, ?_, by decide +kernel, by decide +kernel⟩
  · simp [hsince]
  · simp [hsince]

end Prompt
end GuestHost
