import GuestHost.Proofs.Recording.Layout

/-! # The samples of a recording

The samples that were recorded can be read from the file again (`Recording.halves`): all of them, in
their order, and nothing else.  It does not matter into how many captures they were cut
(`Recording.capture_add`, and `Mixer.render_add` for what is heard). -/

namespace GuestHost
namespace Recording

/-! ### Reading samples -/

/-- Pairs of bytes as 16-bit numbers, the lowest byte first. -/
def halves : List UInt8 → List Int16
  | low :: high :: rest => Int16.ofNat (low.toNat + 256 * high.toNat) :: halves rest
  | _ => []

theorem ofInt_emod (n : Int) : Int16.ofInt (n % 65536) = Int16.ofInt n := by
  have hbits : BitVec.ofInt 16 (n % 65536) = BitVec.ofInt 16 n := by
    apply BitVec.eq_of_toNat_eq
    rw [BitVec.toNat_ofInt, BitVec.toNat_ofInt]
    exact congrArg Int.toNat (Int.emod_emod_of_dvd n (by decide))
  rw [Int16.ofInt, Int16.ofInt, hbits]

theorem halves_pair_append (n : Int) (rest : List UInt8) :
    halves ((pair n).toList ++ rest) = Int16.ofInt n :: halves rest := by
  have hlt : (n % 65536).toNat < 65536 := by omega
  have hlow : (UInt8.ofNat ((n % 65536).toNat % 256)).toNat = (n % 65536).toNat % 256 := by
    rw [UInt8.toNat_ofNat']
    omega
  have hhigh : (UInt8.ofNat ((n % 65536).toNat / 256)).toNat = (n % 65536).toNat / 256 := by
    rw [UInt8.toNat_ofNat']
    omega
  have hsum : (n % 65536).toNat % 256 + 256 * ((n % 65536).toNat / 256) = (n % 65536).toNat :=
    Nat.mod_add_div ..
  have hcast : ((n % 65536).toNat : Int) = n % 65536 := by omega
  simp only [pair, List.cons_append, List.nil_append, halves, hlow, hhigh, hsum]
  rw [← ofInt_emod, ← hcast]
  rfl

theorem halves_encode (values : Array Int) :
    halves (encode values).toList = values.toList.map Int16.ofInt := by
  rw [toList_encode]
  induction values.toList with
  | nil => rfl
  | cons v values ih => rw [List.flatMap_cons, halves_pair_append, ih, List.map_cons]

theorem drop_layout (total data : UInt32) (rate : Int) (values : Array Int) :
    (layout total data rate values).toList.drop 44 = (encode values).toList := by
  have hsize : (Utf8.encode "RIFF" ++ Bytes.ofWord total ++ form rate ++ dataMark
      ++ Bytes.ofWord data).toList.length = 44 := by
    simp only [Array.length_toList, Array.size_append, size_riff, size_ofWord, size_form,
      size_dataMark]
  rw [layout, Array.toList_append, ← hsize, List.drop_left]

/-! ### Captures cut and uncut -/

/-- **Two captures** one after the other leave the file, also once it is closed, and the mixer as one
capture of all samples does. -/
theorem capture_add (r : Recording) (m : Mixer) {n k : Int} (hn : 0 < n) (hk : 0 < k) :
    ((r.capture m n).1.capture (r.capture m n).2.1 k).1.bytes = (r.capture m (n + k)).1.bytes ∧
    ((r.capture m n).1.capture (r.capture m n).2.1 k).1.close.1.bytes =
      (r.capture m (n + k)).1.close.1.bytes ∧
    ((r.capture m n).1.capture (r.capture m n).2.1 k).2.1 = (r.capture m (n + k)).2.1 := by
  have hsum : (n + k).toNat = n.toNat + k.toNat := by omega
  have hmixer : ((r.capture m n).1.capture (r.capture m n).2.1 k).2.1 = (r.capture m (n + k)).2.1 := by
    rw [mixer_capture, mixer_capture, mixer_capture, hsum, Mixer.render_add]
  cases h : r.obstacle? with
  | none =>
      obtain ⟨hfirst, -⟩ := bare_capture h m hn
      have hopen : (r.capture m n).1.obstacle? = none := by
        rw [← obstacle?_bare, hfirst, obstacle?_recorded, obstacle?_bare, h]
      obtain ⟨hsecond, -⟩ := bare_capture hopen (r.capture m n).2.1 hk
      obtain ⟨honce, -⟩ := bare_capture h m (Int.add_pos hn hk)
      have hbare : ((r.capture m n).1.capture (r.capture m n).2.1 k).1.bare =
          (r.capture m (n + k)).1.bare := by
        rw [hsecond, hfirst, recorded_recorded, honce, hsum, Mixer.render_add, mixer_capture]
      exact ⟨congrArg (·.bytes) hbare, congrArg (·.bytes) (close_congr hbare).1, hmixer⟩
  | some why =>
      -- Nothing reaches the file, however the samples are cut.
      have hfirst := stuck_capture h m n
      have hstop : (r.capture m n).1.obstacle? = some why := hfirst.obstacle?.trans h
      have hsecond := hfirst.trans (stuck_capture hstop (r.capture m n).2.1 k)
      have honce := stuck_capture h m (n + k)
      obtain ⟨htwice, -⟩ := close_of_obstacle (hsecond.obstacle?.trans h)
      obtain ⟨hclosed, -⟩ := close_of_obstacle (honce.obstacle?.trans h)
      exact ⟨hsecond.bytes.trans honce.bytes.symm,
        htwice.trans (hsecond.bytes.trans (honce.bytes.symm.trans hclosed.symm)), hmixer⟩

/-! ### Recordings -/

/-- **The samples of a recording.**  After calls without a fault, at least one of which gets as far as
sending, the closed file holds the quantised samples of all calls, in their order, behind 44 bytes of
header.  Cutting what is rendered or captured in two makes no difference. -/
theorem recorded_samples_read_back :
    (∀ (t t' : FileTree) (path : String) (rate : Int) (r : Recording) (calls : List Call),
      create t path rate = .ok (t', r) → r.faults calls = [] → (∃ c ∈ calls, c.Reaches) →
      (r.after calls).samples = (samplesOf calls).size ∧ (r.after calls).close.2 = none ∧
      ∃ b, ((r.after calls).close.1.flush t').fileAt? (t.placeOf path) = some b ∧
        b.size = 44 + 2 * (samplesOf calls).size ∧
        halves (b.toList.drop 44) =
          (samplesOf calls).toList.map fun s => Int16.ofInt (quantise s)) ∧
    (∀ (m : Mixer) (n k : Nat), m.render (n + k) =
      (((m.render n).1.render k).1, (m.render n).2 ++ ((m.render n).1.render k).2)) ∧
    (∀ (r : Recording) (m : Mixer) (n k : Int), 0 < n → 0 < k →
      ((r.capture m n).1.capture (r.capture m n).2.1 k).1.bytes = (r.capture m (n + k)).1.bytes ∧
      ((r.capture m n).1.capture (r.capture m n).2.1 k).1.close.1.bytes =
        (r.capture m (n + k)).1.close.1.bytes ∧
      ((r.capture m n).1.capture (r.capture m n).2.1 k).2.1 = (r.capture m (n + k)).2.1) := by
  refine ⟨?_, fun m n k => m.render_add n k, fun r m n k hn hk => capture_add r m hn hk⟩
  intro t t' path rate r calls hr hcalls hreach
  obtain ⟨hsamples, hclose, hfile⟩ := file_of_reaching hr hcalls hreach t'
  refine ⟨hsamples, hclose, _, hfile, ?_, ?_⟩
  · rw [size_layout, Array.size_map]
  · rw [drop_layout, halves_encode, Array.toList_map, List.map_map]
    rfl

/-- Two frames of a mixer with a voice, nothing in between, and a sample written by hand: five samples
in the file. -/
theorem two_frames_and_a_write_read_back :
    ∃ (t' : FileTree) (r : Recording) (b : Bytes),
      let m := ((Mixer.new 8000).start 440 1).1
      let calls := [.capture m 2, .capture m 0, .capture (m.render 2).1 2, .write #[0.5]]
      create FileTree.start "a.wav" 8000 = .ok (t', r) ∧ r.faults calls = [] ∧
      (∃ c ∈ calls, c.Reaches) ∧
      ((r.after calls).close.1.flush t').fileAt? (FileTree.start.placeOf "a.wav") = some b ∧
      b.size = 54 ∧
      halves (b.toList.drop 44) =
        (samplesOf calls).toList.map (fun s => Int16.ofInt (quantise s)) ∧
      ((r.capture m 2).1.capture (r.capture m 2).2.1 2).1.bytes = (r.capture m (2 + 2)).1.bytes := by
  have hcreate := create_of_create (t := FileTree.start) "a.wav"
    (p := ["work", "a.wav"]) rfl (by decide) 8000
  let m := ((Mixer.new 8000).start 440 1).1
  let calls : List Call := [.capture m 2, .capture m 0, .capture (m.render 2).1 2, .write #[0.5]]
  obtain ⟨-, hfaults⟩ := bare_after (obstacle?_blank "a.wav" ["work", "a.wav"] 8000) calls
  have hreach : ∃ c ∈ calls, c.Reaches := ⟨.capture m 2, List.mem_cons_self, by decide⟩
  obtain ⟨hread, -, hcut⟩ := recorded_samples_read_back
  obtain ⟨-, -, b, hfile, hsize, hhalves⟩ := hread _ _ _ _ _ calls hcreate hfaults hreach
  have hfive : (samplesOf calls).size = 5 := by
    simp [calls, samplesOf, Call.samples, Mixer.size_render]
  rw [hfive] at hsize
  exact ⟨_, _, b, hcreate, hfaults, hreach, hfile, hsize, hhalves,
    (hcut _ m 2 2 (by decide) (by decide)).1⟩

end Recording
end GuestHost
