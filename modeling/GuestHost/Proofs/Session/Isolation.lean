import GuestHost.Session
import Mathlib.Tactic.SplitIfs

/-! # Runs do not see what arrives for others

The exchanges of runs that are over stay behind in the session, and a picker may still deliver to
them.  A run neither reads nor writes them: it does the same whatever they hold, and the same as if
nothing arrived for them.

* **Loops** (`FrameLoop.Alike`).  Two frame loops whose parts go alike on related states end in
  related states and stop for the same reason (`FrameLoop.Alike.run`).  What every part keeps, the
  loop keeps (`FrameLoop.run_keeps`).
* **Other exchanges** (`Session.withPast`).  Every part of a run goes on alike when the exchanges of
  earlier runs are replaced (`Session.begin_made`, `Run.alike_loop`, `Session.finish_withPast`).
* **Whole runs** (`Session.run_withPast`). -/

namespace GuestHost

/-! ### Loops -/

namespace FrameLoop

variable {σ τ : Type}

/-- The parts of two loops go alike on related states. -/
structure Alike (R : σ → τ → Prop) (l : FrameLoop σ) (l' : FrameLoop τ) : Prop where
  dispatch : ∀ n s t, R s t → R (l.dispatch n s) (l'.dispatch n t)
  call : ∀ n s t, R s t → R (l.call n s).1 (l'.call n t).1 ∧ (l.call n s).2 = (l'.call n t).2
  render : ∀ s t, R s t → R (l.render s).1 (l'.render t).1 ∧ (l.render s).2 = (l'.render t).2
  interrupted : ∀ s t, R s t → l.interrupted s = l'.interrupted t

variable {R : σ → τ → Prop} {l : FrameLoop σ} {l' : FrameLoop τ}

/-- **One frame** goes alike. -/
theorem Alike.frame (h : Alike R l l') (n : Nat) {s : σ} {t : τ} (hst : R s t) :
    R (l.frame n s).1 (l'.frame n t).1 ∧ (l.frame n s).2 = (l'.frame n t).2 := by
  obtain ⟨hcalled, hfault⟩ := h.call n _ _ (h.dispatch n s t hst)
  unfold FrameLoop.frame
  rcases hs : l.call n (l.dispatch n s) with ⟨s₁, f⟩
  rcases ht : l'.call n (l'.dispatch n t) with ⟨t₁, f'⟩
  rw [hs, ht] at hcalled hfault
  obtain rfl : f = f' := hfault
  cases f with
  | some why => exact ⟨hcalled, by simp only [h.interrupted s₁ t₁ hcalled]⟩
  | none =>
      obtain ⟨hrendered, hfault⟩ := h.render s₁ t₁ hcalled
      simp only
      rcases hs : l.render s₁ with ⟨s₂, f⟩
      rcases ht : l'.render t₁ with ⟨t₂, f'⟩
      rw [hs, ht] at hrendered hfault
      obtain rfl : f = f' := hfault
      cases f with
      | some why => exact ⟨hrendered, rfl⟩
      | none => exact ⟨hrendered, by simp only [h.interrupted s₂ t₂ hrendered]⟩

/-- **All frames** go alike. -/
theorem Alike.run (h : Alike R l l') (frames n : Nat) {s : σ} {t : τ} (hst : R s t) :
    R (l.run frames n s).1 (l'.run frames n t).1 ∧
      (l.run frames n s).2 = (l'.run frames n t).2 := by
  induction frames generalizing n s t with
  | zero => exact ⟨hst, rfl⟩
  | succ frames ih =>
      obtain ⟨hframe, hstop⟩ := h.frame n hst
      rw [FrameLoop.run, FrameLoop.run]
      rcases hs : l.frame n s with ⟨s₁, stop⟩
      rcases ht : l'.frame n t with ⟨t₁, stop'⟩
      rw [hs, ht] at hframe hstop
      obtain rfl : stop = stop' := hstop
      cases stop with
      | some stop => exact ⟨hframe, rfl⟩
      | none => exact ih (n + 1) hframe

/-- What every part of a loop keeps, the loop keeps. -/
theorem run_keeps {P : σ → Prop} (l : FrameLoop σ) (hdispatch : ∀ n s, P s → P (l.dispatch n s))
    (hcall : ∀ n s, P s → P (l.call n s).1) (hrender : ∀ s, P s → P (l.render s).1)
    (frames n : Nat) {s : σ} (hs : P s) : P (l.run frames n s).1 := by
  -- The loop goes like itself, with the property beside the equality of states.
  have halike : Alike (fun s t => s = t ∧ P s) l l := by
    refine ⟨?_, ?_, ?_, ?_⟩
    · rintro n s _ ⟨rfl, hs⟩
      exact ⟨rfl, hdispatch n s hs⟩
    · rintro n s _ ⟨rfl, hs⟩
      exact ⟨⟨rfl, hcall n s hs⟩, rfl⟩
    · rintro s _ ⟨rfl, hs⟩
      exact ⟨⟨rfl, hrender s hs⟩, rfl⟩
    · rintro s _ ⟨rfl, -⟩
      rfl
  exact (halike.run frames n ⟨rfl, hs⟩).1.2

end FrameLoop

/-! ### The exchanges of other runs -/

/-- The session with other exchanges of earlier runs. -/
def Session.withPast (s : Session) (past : List Exchange) : Session := { s with past }

namespace Run

/-- The run in a session with other exchanges of earlier runs. -/
def withPast (r : Run) (past : List Exchange) : Run := { r with session := r.session.withPast past }

/-- The second run comes after `k` others, and the first differs from it at most in what the exchanges
of those hold. -/
def SameBesidesPast (k : Nat) (r r' : Run) : Prop :=
  r'.session.past.length = k ∧ ∃ past, past.length = k ∧ r = r'.withPast past

variable {k : Nat} {r r' : Run}

theorem SameBesidesPast.dispatch (h : SameBesidesPast k r r') (n : Nat) :
    SameBesidesPast k (r.dispatch n) (r'.dispatch n) := by
  obtain ⟨hk, past, hlength, rfl⟩ := h
  exact ⟨hk, past, hlength, rfl⟩

theorem call_withPast (r : Run) (past : List Exchange) :
    (r.withPast past).call = (r.call.1.withPast past, r.call.2) := by
  unfold call
  simp only
  split_ifs with h h' h'
  · rfl
  · exact absurd h h'
  · exact absurd h' h
  · rfl

theorem past_call (r : Run) : r.call.1.session.past = r.session.past := by
  unfold call
  simp only
  split_ifs <;> rfl

theorem SameBesidesPast.call (h : SameBesidesPast k r r') :
    SameBesidesPast k r.call.1 r'.call.1 ∧ r.call.2 = r'.call.2 := by
  obtain ⟨hk, past, hlength, rfl⟩ := h
  rw [call_withPast]
  exact ⟨⟨by rw [past_call, hk], past, hlength, rfl⟩, rfl⟩

theorem SameBesidesPast.render (h : SameBesidesPast k r r') (samples : Int) :
    SameBesidesPast k (r.render samples).1 (r'.render samples).1 ∧
      (r.render samples).2 = (r'.render samples).2 := by
  obtain ⟨hk, past, hlength, rfl⟩ := h
  exact ⟨⟨hk, past, hlength, rfl⟩, rfl⟩

/-- What arrives for the run itself arrives in both; the rest may as well not arrive. -/
theorem SameBesidesPast.arrive (h : SameBesidesPast k r r') (a : Arrival) :
    SameBesidesPast k (r.arrive a) (if a.exchange = k then r'.arrive a else r') := by
  obtain ⟨hk, past, hlength, rfl⟩ := h
  have hown : (r'.withPast past).session.past.length = k := hlength
  unfold Run.arrive
  rw [hown, hk]
  split_ifs
  · exact ⟨hk, past, hlength, rfl⟩
  · refine ⟨hk, past.modify a.exchange fun x => (x.deliver a.choice).1, ?_, rfl⟩
    rw [List.length_modify, hlength]

theorem SameBesidesPast.arriveAll (h : SameBesidesPast k r r') (as : List Arrival) :
    SameBesidesPast k (as.foldl Run.arrive r)
      ((as.filter (·.exchange = k)).foldl Run.arrive r') := by
  rw [List.foldl_filter]
  apply List.foldl_rel h
  intro a _ r r' h
  simpa using h.arrive a

/-- **The frames of a run** go alike. -/
theorem alike_loop (pace : Pace) (interrupt : FileTree → Bool) (arrivals : Nat → List Arrival)
    (k : Nat) :
    FrameLoop.Alike (SameBesidesPast k) (loop pace interrupt arrivals)
      (loop pace interrupt fun n => (arrivals n).filter (·.exchange = k)) := by
  refine ⟨fun n r r' h => ?_, fun _ r r' h => h.call, fun r r' h => h.render pace.samples, ?_⟩
  · exact (h.arriveAll (arrivals n)).dispatch n
  · rintro r r' ⟨-, past, -, rfl⟩
    rfl

theorem SameBesidesPast.conclude (h : SameBesidesPast k r r') (stop : Option Stop) :
    SameBesidesPast k (r.conclude stop).1 (r'.conclude stop).1 ∧
      (r.conclude stop).2 = (r'.conclude stop).2 := by
  obtain ⟨hk, past, hlength, rfl⟩ := h
  rcases stop with _ | _ | _ | _ <;> exact ⟨⟨hk, past, hlength, rfl⟩, rfl⟩

/-- **Driving a guest** goes alike. -/
theorem SameBesidesPast.drive (h : SameBesidesPast k r r') (patience : Nat)
    (interrupt : FileTree → Bool) (arrivals : Nat → List Arrival) :
    let own := fun n => (arrivals n).filter (·.exchange = k)
    SameBesidesPast k (r.drive patience interrupt arrivals).1 (r'.drive patience interrupt own).1 ∧
      (r.drive patience interrupt arrivals).2 = (r'.drive patience interrupt own).2 := by
  intro own
  have hloop : ∀ pace frames, SameBesidesPast k ((loop pace interrupt arrivals).run frames 0 r).1
        ((loop pace interrupt own).run frames 0 r').1 ∧
      ((loop pace interrupt arrivals).run frames 0 r).2
        = ((loop pace interrupt own).run frames 0 r').2 :=
    fun pace frames => (alike_loop pace interrupt arrivals k).run frames 0 h
  obtain ⟨hk, past, hlength, rfl⟩ := h
  have hframe : (r'.withPast past).hasFrame = r'.hasFrame := rfl
  have hpace : (r'.withPast past).pace = r'.pace := rfl
  have hlimit : (r'.withPast past).session.settings = r'.session.settings := rfl
  unfold Run.drive
  rw [hframe, hpace, hlimit]
  cases r'.pace with
  | error f =>
      split_ifs <;> exact ⟨⟨hk, past, hlength, rfl⟩, rfl⟩
  | ok pace =>
      simp only
      split_ifs
      · exact ⟨⟨hk, past, hlength, rfl⟩, rfl⟩
      · obtain ⟨hend, hstop⟩ := hloop pace patience
        rw [hstop]
        exact hend.conclude _
      · obtain ⟨hend, hstop⟩ := hloop pace r'.session.settings.frame.limit.toNat
        rw [hstop]
        exact hend.conclude _

end Run

namespace Session

/-! ### Beginning and ending -/

section begin
variable {s : Session} {target : String} {catalog : Catalog} {engine engine' : Engine} {g : Guest}
  {b : Bridge} {f : Fault} {n : Nat} {log more : Journal}

theorem begin_unresolved
    (h : s.catalog.resolve s.engine s.files target = (catalog, engine, .error f, log)) :
    s.begin target = ({ s with catalog, engine }, .error f, log) := by
  unfold begin
  rw [h]

theorem begin_failed
    (h : s.catalog.resolve s.engine s.files target = (catalog, engine, .ok g, log))
    (h' : engine.instantiate s.bridge g.request = (engine', b, .error f, more)) :
    s.begin target = (({ s with catalog, engine := engine' }.reclaim b).1, .error f,
      log ++ more ++ ({ s with catalog, engine := engine' }.reclaim b).2) := by
  have hmade : engine.instantiate ({ s with catalog, engine } : Session).bridge g.request
    = (engine', b, .error f, more) := h'
  unfold begin
  rw [h]
  simp only [hmade]

theorem begin_made
    (h : s.catalog.resolve s.engine s.files target = (catalog, engine, .ok g, log))
    (h' : engine.instantiate s.bridge g.request = (engine', b, .ok n, more)) :
    let s' : Session := { s with catalog, engine := engine' }
    let r : Run := { session := s', guest := g, number := n, bridge := b }
    ∃ told, ∀ past,
      (s.withPast past).begin target = (s'.withPast past, .ok (r.withPast past), told) := by
  refine ⟨(s.begin target).2.2, fun past => ?_⟩
  have hfound : (s.withPast past).catalog.resolve (s.withPast past).engine (s.withPast past).files
    target = (catalog, engine, .ok g, log) := h
  -- A bridge does not know the engine, the catalog or the exchanges of earlier runs.
  have hmade : ∀ s' : Session, s'.bridge = s.bridge →
      engine.instantiate s'.bridge g.request = (engine', b, .ok n, more) :=
    fun s' hs' => hs' ▸ h'
  unfold begin
  rw [h, hfound]
  simp only [hmade { s with catalog, engine } rfl, hmade { s.withPast past with catalog, engine } rfl]
  rfl

end begin

theorem finish_withPast (r : Run) (past : List Exchange) :
    finish (r.withPast past)
      = ((finish r).1.withPast (past ++ [r.bridge.close.1.exchange]), (finish r).2) := rfl

/-- Of the choices that arrive, those for the exchange of the next run. -/
def forNextRun (s : Session) (arrivals : Nat → List Arrival) : Nat → List Arrival :=
  fun n => (arrivals n).filter (·.exchange = s.past.length)

/-- **A run sees nothing of others.**  Whatever the exchanges of earlier runs hold, and whatever
arrives for them while the run goes on, it does what it does with nothing but its own arrivals, and
its own exchange is left the same. -/
theorem run_withPast (s : Session) {past : List Exchange} (hlength : past.length = s.past.length)
    (patience : Nat) (interrupt : FileTree → Bool) (target : String)
    (arrivals : Nat → List Arrival) :
    let alone := s.run patience interrupt target (s.forNextRun arrivals)
    ∃ past', past'.drop s.past.length = alone.1.past.drop s.past.length ∧
      (s.withPast past).run patience interrupt target arrivals
        = (alone.1.withPast past', alone.2) := by
  intro alone
  simp only [alone, run]
  rcases h : s.catalog.resolve s.engine s.files target with ⟨catalog, engine, f | g, log⟩
  · rw [begin_unresolved h, begin_unresolved (s := s.withPast past) h]
    refine ⟨past, ?_, rfl⟩
    rw [← hlength, List.drop_length, hlength, List.drop_length]
  rcases h' : engine.instantiate s.bridge g.request with ⟨engine', b, f | n, more⟩
  · rw [begin_failed h h', begin_failed (s := s.withPast past) h h']
    refine ⟨past ++ [b.close.1.exchange], ?_, rfl⟩
    rw [List.drop_left' hlength]
    exact (List.drop_left' rfl).symm
  · obtain ⟨told, hbegin⟩ := begin_made h h'
    have hself := hbegin s.past
    rw [hbegin past, show s.begin target = _ from hself]
    have hsame : Run.SameBesidesPast s.past.length
        (Run.withPast ⟨{ s with catalog, engine := engine' }, g, n, b, []⟩ past)
        ⟨{ s with catalog, engine := engine' }, g, n, b, []⟩ := ⟨rfl, past, hlength, rfl⟩
    obtain ⟨⟨hk, past', hlength', hrun⟩, hfault⟩ := hsame.drive patience interrupt arrivals
    simp only
    rw [hrun, hfault, finish_withPast]
    refine ⟨_, ?_, rfl⟩
    rw [List.drop_left' hlength']
    exact (List.drop_left' hk).symm

end Session
end GuestHost
