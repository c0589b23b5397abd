import GuestHost.Proofs.Guest.Execution
import GuestHost.Proofs.Mixer.Voices
import GuestHost.Recording

/-! # A guest's tones end with its bridge

Tones sound in a mixer that outlives the guest.  The guest's pool knows every voice that sounds
(`Bridge.Voiced`): tones are started through the pool only, and what is rendered keeps the identities
of the voices.  So when the bridge is closed nothing sounds any more (`Bridge.voices_close`). -/

namespace GuestHost

theorem Recording.ids_capture (r : Recording) (m : Mixer) (n : Int) :
    (r.capture m n).2.1.voices.map (·.id) = m.voices.map (·.id) := by
  unfold capture
  split_ifs
  · rfl
  · exact m.ids_render n.toNat

namespace Bridge

/-- The guest's pool knows every voice that sounds. -/
def Voiced (b : Bridge) : Prop := ∀ id ∈ b.synth.mixer.voices.map (·.id), id ∈ b.pool.voices

theorem Voiced.congr {b b' : Bridge} (h : b.Voiced)
    (hids : b'.synth.mixer.voices.map (·.id) = b.synth.mixer.voices.map (·.id))
    (hpool : b'.pool = b.pool) : b'.Voiced := by
  rw [Voiced, hids, hpool]
  exact h

theorem voiced_play {b : Bridge} (h : b.Voiced) (frequency volume : Float) :
    (b.play frequency volume).1.Voiced := by
  simp only [play, Pool.play]
  split_ifs
  · unfold Synth.start
    cases b.synth.refusal b.synth.requests with
    | some f => exact h
    | none =>
        intro id hid
        simp only [Mixer.start, List.map_append, List.map_cons, List.map_nil, List.mem_append,
          List.mem_singleton] at hid ⊢
        exact hid.imp_left (h id)
  · exact h

theorem voices_dropAll {b : Bridge} (h : b.Voiced) : b.dropAll.1.synth.mixer.voices = [] := by
  simp only [dropAll, Pool.dropAll, Mixer.voices_foldl_stop]
  rw [List.filter_eq_nil_iff]
  intro v hv
  simpa using h v.id (List.mem_map_of_mem hv)

/-- **Closing a bridge** ends every tone. -/
theorem voices_close {b : Bridge} (h : b.Voiced) : b.close.1.synth.mixer.voices = [] :=
  voices_dropAll h

/-- **One call** on a bridge leaves no voice out of the pool. -/
theorem voiced_lasting : Lasting Voiced := by
  intro b heap c h
  cases c with
  | play frequency volume => exact voiced_play h frequency volume
  | dropAll =>
      intro id hid
      simp only [act, voices_dropAll h] at hid
      cases hid
  | close =>
      intro id hid
      simp only [act, voices_close h] at hid
      cases hid
  | bind m =>
      refine h.congr ?_ ?_
      all_goals
        simp only [act, bind]
        split_ifs <;> rfl
  | log level address length =>
      simp only [act, log_fst]
      exact h
  | importFile dest =>
      simp only [act, importFile_fst]
      exact h
  | giveFile na nl ta tl =>
      obtain ⟨deliveries, e | e⟩ := giveFile_fst b heap na nl ta tl
      · simp only [act, e]
        exact h
      · simp only [act, e]
        exact h
  | _ => exact h

end Bridge
end GuestHost
