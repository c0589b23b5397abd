import GuestHost.Outlet

/-! # The calls that an outlet makes

An outlet may be a fan of outlets, and these may be fans again.  Handing it an artifact comes to calls
of its recipients.

* **Nesting** does not matter: an outlet does what a single fan of its recipients does
  (`Outlet.deliver_eq_deliverAll`).
* **Notes** (`Outlet.noting`).  The calls are noted down without changing anything, and there is one for
  each recipient (`Outlet.noted_deliver`). -/

namespace GuestHost
namespace Outlet

/-! ### Recipients -/

section
variable {ι : Type}

mutual

/-- The recipients of an outlet, from left to right. -/
def recipients : Outlet ι → List ι
  | single r => [r]
  | fan parts => recipientsAll parts

/-- The recipients of several outlets, from left to right. -/
def recipientsAll : List (Outlet ι) → List ι
  | [] => []
  | o :: os => recipients o ++ recipientsAll os

end

end

section
variable {ι σ : Type} (act : ι → σ → Artifact → σ × Option Fault) (a : Artifact)

theorem deliverAll_append (os ps : List (Outlet ι)) (s : σ) :
    deliverAll act a (os ++ ps) s =
      ((deliverAll act a ps (deliverAll act a os s).1).1,
        (deliverAll act a os s).2 ++ (deliverAll act a ps (deliverAll act a os s).1).2) := by
  induction os generalizing s with
  | nil => rfl
  | cons o os ih => simp only [List.cons_append, deliverAll, ih, List.append_assoc]

mutual

/-- **Nesting** does not matter. -/
theorem deliver_eq_deliverAll (o : Outlet ι) (s : σ) :
    deliver act a o s = deliverAll act a (o.recipients.map single) s := by
  cases o with
  | single r => simp [recipients, deliverAll]
  | fan parts =>
    rw [deliver, recipients]
    exact deliverAll_eq_deliverAll parts s

theorem deliverAll_eq_deliverAll (os : List (Outlet ι)) (s : σ) :
    deliverAll act a os s = deliverAll act a ((recipientsAll os).map single) s := by
  cases os with
  | nil => rfl
  | cons o os =>
    rw [recipientsAll, List.map_append, deliverAll_append, ← deliver_eq_deliverAll o s,
      ← deliverAll_eq_deliverAll os]
    rfl

end

/-! ### Calls -/

/-- A call of a recipient: what it was handed, and what it answered. -/
structure Call (ι : Type) where
  recipient : ι
  artifact : Artifact
  answer : Option Fault

/-- Does what is to be done with an artifact, and notes down the call. -/
def noting (r : ι) (s : σ × List (Call ι)) (b : Artifact) : (σ × List (Call ι)) × Option Fault :=
  (((act r s.1 b).1, s.2 ++ [⟨r, b, (act r s.1 b).2⟩]), (act r s.1 b).2)

/-- The calls that an outlet makes. -/
def calls (o : Outlet ι) (s : σ) : List (Call ι) := (deliver (noting act) a o (s, [])).1.2

/-- A run of recipients that was noted down: it is the same run, and the notes are about each of the
recipients once, in their order. -/
structure Noted (rs : List ι) (s : σ) (cs : List (Call ι))
    (noted : (σ × List (Call ι)) × List Fault) (run : σ × List Fault) : Prop where
  state : noted.1.1 = run.1
  faults : noted.2 = run.2
  calls : ∃ new, noted.1.2 = cs ++ new ∧
    (new.map fun c => (c.recipient, c.artifact)) = rs.map (·, a) ∧ run.2 = new.filterMap Call.answer

theorem noted_deliverAll (rs : List ι) (s : σ) (cs : List (Call ι)) :
    Noted a rs s cs (deliverAll (noting act) a (rs.map single) (s, cs))
      (deliverAll act a (rs.map single) s) := by
  induction rs generalizing s cs with
  | nil => exact ⟨rfl, rfl, [], (List.append_nil cs).symm, rfl, rfl⟩
  | cons r rs ih =>
    obtain ⟨hstate, hfaults, new, hnew, hcalled, hanswers⟩ :=
      ih (act r s a).1 (cs ++ [⟨r, a, (act r s a).2⟩])
    refine ⟨hstate, ?_, ⟨r, a, (act r s a).2⟩ :: new, ?_, ?_, ?_⟩
    · simp only [List.map_cons, deliverAll, deliver, noting]
      exact congrArg _ hfaults
    · simp only [List.map_cons, deliverAll, deliver, noting, hnew, List.append_assoc,
        List.singleton_append]
    · rw [List.map_cons, List.map_cons, hcalled]
    · simp only [List.map_cons, deliverAll, deliver, hanswers]
      cases (act r s a).2 <;> rfl

/-- **Taking notes** changes nothing, and there is one note for each recipient. -/
theorem noted_deliver (o : Outlet ι) (s : σ) :
    Noted a o.recipients s [] (deliver (noting act) a o (s, [])) (deliver act a o s) := by
  rw [deliver_eq_deliverAll (noting act), deliver_eq_deliverAll act]
  exact noted_deliverAll act a o.recipients s []

theorem calls_eq (o : Outlet ι) (s : σ) :
    ((o.calls act a s).map fun c => (c.recipient, c.artifact)) = o.recipients.map (·, a) ∧
      (deliver act a o s).2 = (o.calls act a s).filterMap Call.answer := by
  obtain ⟨-, -, new, hnew, hcalled, hanswers⟩ := noted_deliver act a o s
  rw [calls, hnew, List.nil_append]
  exact ⟨hcalled, hanswers⟩

end

end Outlet
end GuestHost
