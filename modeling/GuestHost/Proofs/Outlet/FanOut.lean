import GuestHost.Proofs.Bridge.Refusal
import GuestHost.Proofs.Outlet.Calls

/-! # A fan reaches every recipient

Whatever the recipients of an outlet answer, each of them is handed the artifact, and every failure is
told.

* **Calls.**  Each recipient is called once, however deep the fans are nested (`Outlet.calls_eq`).
* **Failures.**  What an outlet answers (`Outlet.answer`) puts together the failures of all calls, in the
  order of the calls (`Outlet.told_answer`). -/

namespace GuestHost

/-- The failures that are put together in an answer, which may be that nothing failed. -/
def Fault.told (f : Option Fault) : List Fault := f.elim [] parts

theorem Fault.told_append (f g : Option Fault) : told (append f g) = told f ++ told g := by
  cases f <;> cases g <;> simp [append, told, parts]

theorem Fault.told_gather (fs : List Fault) : told (gather fs) = fs.flatMap parts := by
  induction fs with
  | nil => rfl
  | cons f fs ih =>
    rw [gather_cons, told_append, ih]
    rfl

namespace Outlet

section
variable {ι σ : Type} (act : ι → σ → Artifact → σ × Option Fault) (a : Artifact)

/-- What an outlet answers. -/
def answer (o : Outlet ι) (s : σ) : Option Fault := Fault.gather (deliver act a o s).2

theorem answer_single (r : ι) (s : σ) : (single r).answer act a s = (act r s a).2 := by
  rw [answer, deliver]
  rcases act r s a with ⟨t, _ | f⟩ <;> rfl

/-- A fan puts the answers of its parts together, one after the other. -/
theorem answer_fan_cons (o : Outlet ι) (os : List (Outlet ι)) (s : σ) :
    (fan (o :: os)).answer act a s
      = Fault.append (o.answer act a s) ((fan os).answer act a (deliver act a o s).1) := by
  simp only [answer, deliver, deliverAll, Fault.gather_append]

theorem answer_eq_none_iff (o : Outlet ι) (s : σ) :
    o.answer act a s = none ↔ ∀ c ∈ o.calls act a s, c.answer = none := by
  rw [answer, Fault.gather_eq_none_iff, (calls_eq act a o s).2, List.filterMap_eq_nil_iff]

theorem told_answer (o : Outlet ι) (s : σ) :
    Fault.told (o.answer act a s) = (o.calls act a s).flatMap fun c => Fault.told c.answer := by
  rw [answer, Fault.told_gather, (calls_eq act a o s).2]
  induction o.calls act a s with
  | nil => rfl
  | cons c cs ih =>
    rw [List.flatMap_cons, ← ih]
    cases hc : c.answer <;> simp [hc, Fault.told]

end

end Outlet

namespace Exchange

/-- What becomes of a text when there is an outlet. -/
theorem give_of_outlet {x : Exchange} {o : Outlet Recipient} (ho : x.outlet = some o)
    (d : Deliveries) (name text : String) :
    x.give d name text =
      ((o.deliver Recipient.receive (x.artifact name text) d).1,
        (o.answer Recipient.receive (x.artifact name text) d).map (Fault.undelivered name),
        match o.answer Recipient.receive (x.artifact name text) d with
        | some _ => []
        | none => [.info component "Artifact delivered"
            [("name", .text name), ("size_bytes", .whole (x.artifact name text).content.size)]]) := by
  have hreceive : d.receive o { name, content := Utf8.encode text, createdAt := x.now }
      = o.deliver Recipient.receive (x.artifact name text) d := rfl
  simp only [give, ho, hreceive, Outlet.answer]
  cases Fault.gather (o.deliver Recipient.receive (x.artifact name text) d).2 <;> rfl

end Exchange

open Outlet in
/-- **A fan reaches every recipient.**  Whatever is done with an artifact at each of its recipients, an
outlet hands the artifact to each of them once, from left to right, and nothing else is done.  It answers
that nothing failed just if all of them do; otherwise it tells the failures of all of them, in their
order, however deep the fans are nested.  When a text is handed out, it is this answer that is told as the
cause why the artifact could not be handed over, and the artifact is reported as delivered just if no
recipient failed. -/
theorem fan_reaches_every_recipient {ι σ : Type} (act : ι → σ → Artifact → σ × Option Fault)
    (a : Artifact) (o : Outlet ι) (s : σ) :
    ((o.calls act a s).map fun c => (c.recipient, c.artifact)) = o.recipients.map (·, a) ∧
    ((deliver (noting act) a o (s, [])).1.1, (deliver (noting act) a o (s, [])).2) = deliver act a o s ∧
    (∀ r, o = single r → o.answer act a s = (act r s a).2) ∧
    (∀ p ps, o = fan (p :: ps) → o.answer act a s
      = Fault.append (p.answer act a s) ((fan ps).answer act a (deliver act a p s).1)) ∧
    (o.answer act a s = none ↔ ∀ c ∈ o.calls act a s, c.answer = none) ∧
    Fault.told (o.answer act a s) = ((o.calls act a s).flatMap fun c => Fault.told c.answer) ∧
    ∀ (x : Exchange) (p : Outlet Recipient) (d : Deliveries) (name text : String),
      x.outlet = some p →
      (x.give d name text).1 = (p.deliver Recipient.receive (x.artifact name text) d).1 ∧
      (x.give d name text).2.1
        = (p.answer Recipient.receive (x.artifact name text) d).map (Fault.undelivered name) ∧
      ((∃ r ∈ (x.give d name text).2.2, r.message = "Artifact delivered") ↔
        ∀ c ∈ p.calls Recipient.receive (x.artifact name text) d, c.answer = none) := by
  obtain ⟨hstate, hfaults, -⟩ := noted_deliver act a o s
  refine ⟨(calls_eq act a o s).1, Prod.ext hstate hfaults, ?_, ?_, answer_eq_none_iff act a o s,
    told_answer act a o s, ?_⟩
  · rintro r rfl
    exact answer_single act a r s
  · rintro p ps rfl
    exact answer_fan_cons act a p ps s
  · intro x p d name text hp
    rw [Exchange.give_of_outlet hp]
    refine ⟨rfl, rfl, ?_⟩
    rw [← answer_eq_none_iff]
    cases p.answer Recipient.receive (x.artifact name text) d with
    | none => simp [Record.info]
    | some f => simp

/-- Two recipients of a nested fan refuse the artifact: both failures are told, and the recipient between
them has got it. -/
theorem nested_fan_tells_both_failures :
    let o : Outlet Recipient := .fan [.single (.refusal (.plain "full")),
      .fan [.single .collection, .single (.refusal (.plain "gone"))]]
    let x : Exchange := { outlet := some o }
    (x.give {} "a.csv" "1").1.collected = [x.artifact "a.csv" "1"] ∧
    (x.give {} "a.csv" "1").2.1
      = some (.undelivered "a.csv" (.several [.plain "full", .plain "gone"])) ∧
    ¬ ∃ r ∈ (x.give {} "a.csv" "1").2.2, r.message = "Artifact delivered" := by
  intro o x
  obtain ⟨-, -, -, -, -, -, hgive⟩ := fan_reaches_every_recipient Recipient.receive
    (x.artifact "a.csv" "1") o {}
  obtain ⟨hhanded, hcause, hreported⟩ := hgive x o {} "a.csv" "1" rfl
  refine ⟨by rw [hhanded]; rfl, by rw [hcause]; rfl, ?_⟩
  rw [hreported, ← Outlet.answer_eq_none_iff]
  exact fun hnone => Option.some_ne_none _ hnone

end GuestHost
