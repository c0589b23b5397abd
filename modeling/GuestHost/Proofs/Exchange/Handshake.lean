import GuestHost.Proofs.Exchange.History

/-! # The import handshake follows the history

Which file is pending, and where the handshake stands, can be read off what happened so far.

* The **pending file** is the choice applied last, unless a file was consumed since
  (`History.pending?`).
* The handshake is **ready** when a file is pending.  Otherwise it is **requested** when a file was
  asked for since the last choice was applied, and **idle** when none was.
* Length and tag are those of the pending file, zero when there is none.

`Exchange.Follows` puts this together, and `handshake_follows_history` shows it for every run of
every exchange. -/

namespace GuestHost

/-- A choice as a pending file. -/
def Classifier.pending (k : Classifier) (s : Selection) : Pending := ⟨s.name, s.data, k.classify s.name⟩

namespace Exchange

/-! ### Reading a history -/

namespace History

/-- What happened since the last choice was applied; everything if none ever was. -/
def since (h : History) : History := h.rtakeWhile fun e => e.applied?.isNone

/-- The file that a history leaves pending. -/
def pending? (h : History) : Option Selection :=
  if consumed h.since = [] then h.applied.getLast? else none

theorem since_concat (h : History) (e : Happening) :
    since (h ++ [e]) = if e.applied?.isNone then h.since ++ [e] else [] :=
  List.rtakeWhile_concat _ _ e

theorem since_append (g h : History) (hh : h.applied = []) : since (g ++ h) = g.since ++ h := by
  induction h using List.reverseRecOn with
  | nil => simp
  | append_singleton h e ih =>
      rw [applied_append, List.append_eq_nil_iff] at hh
      have he : e.applied? = none := by simpa [applied] using hh.2
      rw [← List.append_assoc, since_concat, ih hh.1]
      simp [he]

theorem pending?_concat_applied (h : History) {e : Happening} {s : Selection}
    (he : e.applied? = some s) : pending? (h ++ [e]) = some s := by
  have hs : since (h ++ [e]) = [] := by rw [since_concat]; simp [he]
  have ha : applied (h ++ [e]) = h.applied ++ [s] := by rw [applied_append]; simp [applied, he]
  simp [pending?, hs, ha, consumed]

theorem pending?_append (g h : History) (ha : h.applied = []) :
    pending? (g ++ h) = if h.consumed = [] then g.pending? else none := by
  unfold pending?
  rw [since_append g h ha, consumed_append, applied_append, ha, List.append_nil]
  by_cases hg : consumed g.since = [] <;> by_cases hh : h.consumed = [] <;> simp [hg, hh]

end History

/-- Replaying a history leaves the pending file and the wish that can be read off it. -/
theorem foldl_react (h : History) :
    h.foldl Slot.react {} = ⟨h.pending?, decide (Happening.asked ∈ h.since)⟩ := by
  induction h using List.reverseRecOn with
  | nil => rfl
  | append_singleton h e ih =>
      rw [List.foldl_append, ih]
      cases e with
      | asked =>
          rw [History.pending?_append _ _ rfl, History.since_append _ _ rfl]
          simp [Slot.react, History.consumed, Happening.consumed?]
      | posted s =>
          rw [History.pending?_append _ _ rfl, History.since_append _ _ rfl]
          simp [Slot.react, History.consumed, Happening.consumed?]
      | drained s =>
          rw [History.pending?_concat_applied h rfl, History.since_concat]
          simp [Slot.react, Happening.applied?]
      | completed s =>
          rw [History.pending?_concat_applied h rfl, History.since_concat]
          simp [Slot.react, Happening.applied?]
      | consumed s =>
          rw [History.pending?_append _ _ rfl, History.since_append _ _ rfl]
          simp [Slot.react, History.consumed, Happening.consumed?]

/-! ### The handshake -/

/-- What can be polled of an exchange is what its history says. -/
structure Follows (x : Exchange) (k : Classifier) (h : History) : Prop where
  pending : x.pending = h.pending?.map k.pending
  ready : x.stage = .ready ↔ h.pending?.isSome
  requested : x.stage = .requested ↔ h.pending? = none ∧ .asked ∈ h.since
  idle : x.stage = .idle ↔ h.pending? = none ∧ .asked ∉ h.since
  length : x.length.toNat = ((h.pending?.map fun s => s.data.size).getD 0) % UInt32.size
  tag : x.tag.code = ((h.pending?.map fun s => k.classify s.name).getD .unknown).code

theorem pending_of_slot {c : ExchangeConfig} {x : Exchange} (hx : x.Keeps c) :
    x.pending = x.slot.pending.map c.classifier.orStandard.pending := by
  cases hp : x.pending with
  | none => simp [slot, hp]
  | some p =>
      have ht := hx.tagged p hp
      rw [hx.classifier] at ht
      simp [slot, hp, Pending.selection, Classifier.pending, ← ht]

theorem follows_of_slot {c : ExchangeConfig} {x : Exchange} {h : History} (hx : x.Keeps c)
    (hs : x.slot = h.foldl Slot.react {}) : x.Follows c.classifier.orStandard h := by
  rw [foldl_react] at hs
  have hp : x.pending = h.pending?.map c.classifier.orStandard.pending := by
    rw [pending_of_slot hx, hs]
  have ha : x.awaiting = decide (Happening.asked ∈ h.since) := congrArg Slot.awaiting hs
  have hstage : x.stage = if h.pending?.isSome then .ready
      else if .asked ∈ h.since then .requested else .idle := by
    simp [stage, hp, ha]
  refine ⟨hp, ?_, ?_, ?_, ?_, ?_⟩
  · rw [hstage]
    split_ifs with hr <;> simp [hr]
  · rw [hstage, ← Option.not_isSome_iff_eq_none]
    by_cases hr : h.pending?.isSome <;> by_cases hw : Happening.asked ∈ h.since <;> simp [hr, hw]
  · rw [hstage, ← Option.not_isSome_iff_eq_none]
    by_cases hr : h.pending?.isSome <;> by_cases hw : Happening.asked ∈ h.since <;> simp [hr, hw]
  · cases hh : h.pending? <;> simp [length, hp, hh, Classifier.pending]
  · cases hh : h.pending? <;> simp [tag, hp, hh, Classifier.pending]

theorem follows_after (c : ExchangeConfig) (cs : List Call) :
    ((new c).after cs).Follows c.classifier.orStandard ((new c).history cs) := by
  apply follows_of_slot ((keeps_new c).after cs)
  rw [slot_after]
  rfl

/-! ### What polling cannot tell apart -/

/-- Two exchanges between which no poll can tell the difference. -/
structure Agrees (x y : Exchange) : Prop where
  pending : x.pending = y.pending
  stage : x.stage = y.stage
  length : x.length = y.length
  tag : x.tag = y.tag

theorem agrees_of_eq {x y : Exchange} (hp : x.pending = y.pending) (ha : x.awaiting = y.awaiting) :
    x.Agrees y where
  pending := hp
  stage := by simp [stage, hp, ha]
  length := length_congr hp
  tag := tag_congr hp

theorem agrees_consume_error {x : Exchange} {v : View} {h : Heap} {dest : UInt32} {f : Fault}
    (hr : (x.consume v h dest).result = .error f) : (x.consume v h dest).exchange.Agrees x := by
  obtain ⟨v', h', g, e⟩ | ⟨p, v', h', -, -, e⟩ := consume_outcome x v h dest
  · rw [e]
    exact agrees_of_eq rfl rfl
  · rw [e] at hr
    cases hr

theorem agrees_request_fails {x : Exchange} {t : FileTree} {why : Fault}
    (ho : x.opening? t = some (.fails why)) :
    (x.request t).1.Agrees ({ x with picker := none }.request t).1 := by
  have hh : x.happenings (.request t) = [.asked] := by simp [happenings, delivered?, ho]
  obtain ⟨-, ⟨openings, interrupted, e⟩, -⟩ | ⟨s, hs, -⟩ := request_cases x t
  · rw [show (x.request t).1 = _ from e]
    exact agrees_of_eq rfl rfl
  · rw [hs] at hh
    cases hh

theorem asked_mem_history_request (x : Exchange) (t : FileTree) (cs : List Call) :
    .asked ∈ x.history (.request t :: cs) := by
  obtain ⟨h, -⟩ | ⟨s, h, -⟩ := request_cases x t <;> simp [history, h]

/-- A file asked for stays asked for when the pending file is consumed, as long as no choice was
applied meanwhile. -/
theorem stage_after_request_consume (c : ExchangeConfig) (cs more : List Call) {x : Exchange}
    (hx : x = (new c).after cs) {t : FileTree} {v : View} {h : Heap} {dest : UInt32} {n : Nat}
    (ha : History.applied (x.history (.request t :: more)) = [])
    (hr : ((x.after (.request t :: more)).consume v h dest).result = .ok n) :
    (x.after (.request t :: more ++ [.consume v h dest])).stage = .requested := by
  have hf := follows_after c (cs ++ (.request t :: more ++ [.consume v h dest]))
  rw [after_append, history_append, ← hx] at hf
  obtain ⟨v', h', g, e⟩ | ⟨p, v', h', hp, -, -⟩ :=
    consume_outcome (x.after (.request t :: more)) v h dest
  · rw [e] at hr
    cases hr
  · have hlate : x.history (.request t :: more ++ [.consume v h dest])
        = x.history (.request t :: more) ++ [.consumed p.selection] := by
      rw [history_append, history_singleton, happenings_consume_ok hp hr]
    have happlied : History.applied (x.history (.request t :: more) ++ [.consumed p.selection]) = [] := by
      rw [History.applied_append, ha]
      rfl
    rw [hlate] at hf
    apply hf.requested.mpr
    constructor
    · rw [History.pending?_append _ _ happlied, History.consumed_append]
      simp [History.consumed, Happening.consumed?]
    · rw [History.since_append _ _ happlied]
      apply List.mem_append_right
      exact List.mem_append_left _ (asked_mem_history_request x t more)

/-- **The handshake follows the history**, for every exchange and every run: the pending file, the
stage, the length and the tag are those that the history says.  A file asked for while another one
is ready is still asked for when that one has been consumed.  Exports, closing, failed attempts to
consume, and pickers that do not open leave all of it alone. -/
theorem handshake_follows_history (c : ExchangeConfig) (cs : List Call) :
    let x := (new c).after cs
    x.Follows c.classifier.orStandard ((new c).history cs) ∧
    (∀ t more v h dest n, History.applied (x.history (.request t :: more)) = [] →
      ((x.after (.request t :: more)).consume v h dest).result = .ok n →
      (x.after (.request t :: more ++ [.consume v h dest])).stage = .requested) ∧
    (∀ d name text, (x.act (.give d name text)).1.Agrees x) ∧
    x.close.Agrees x ∧
    (∀ v h dest f, (x.consume v h dest).result = .error f →
      (x.consume v h dest).exchange.Agrees x) ∧
    (∀ t why, x.opening? t = some (.fails why) →
      (x.request t).1.Agrees ({ x with picker := none }.request t).1) := by
  intro x
  refine ⟨follows_after c cs, ?_, ?_, ?_, ?_, ?_⟩
  · intro t more v h dest n ha hr
    exact stage_after_request_consume c cs more rfl ha hr
  · intro d name text
    exact agrees_of_eq rfl rfl
  · exact agrees_of_eq rfl rfl
  · intro v h dest f hr
    exact agrees_consume_error hr
  · intro t why ho
    exact agrees_request_fails ho

/-- A file is asked for while another one is ready, and is still asked for after the import. -/
theorem request_outlives_import :
    let x := (new {}).after [.complete ⟨"a.l3", #[1, 2]⟩]
    let h : Heap := { buffers := #[#[0, 0, 0, 0]], memories := #[{ buffer := 0 }] }
    x.stage = .ready ∧
      (x.after [.request {}, .consume { binding := .memory 0 } h 2]).stage = .requested :=
  ⟨by decide, (handshake_follows_history {} [.complete ⟨"a.l3", #[1, 2]⟩]).2.1 {} []
    { binding := .memory 0 } { buffers := #[#[0, 0, 0, 0]], memories := #[{ buffer := 0 }] } 2 2
    rfl rfl⟩

end Exchange
end GuestHost
