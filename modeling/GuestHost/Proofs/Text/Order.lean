import GuestHost.Proofs.Text.Utf8
import Mathlib.Data.List.Nodup

/-! # The order of texts is the order of their bytes

Texts are compared character by character, and what is stored is compared byte by byte.  The
encoding keeps the order: of two different characters, the smaller one has the smaller byte at the
first place where their encodings differ (`encode_lt_encode`), whatever comes after them.  So what is
sorted by names is in the order of their bytes (`Named.increasing_mergeSort`). -/

namespace GuestHost
namespace Utf8

theorem byte_cons_lt {m n : Nat} (hm : m < 256) (hn : n < 256) (x y : List UInt8) :
    UInt8.ofNat m :: x < UInt8.ofNat n :: y ↔ m < n ∨ (m = n ∧ x < y) := by
  rw [List.cons_lt_cons_iff, UInt8.lt_iff_toNat_lt, ← UInt8.toNat_inj, toNat_byte hm, toNat_byte hn]

/-- **Two characters.**  The first byte in which their encodings differ is smaller for the smaller
one, whatever comes after them. -/
theorem encode_lt_encode {c d : Char} (h : c.toNat < d.toNat) (x y : List UInt8) :
    String.utf8EncodeChar c ++ x < String.utf8EncodeChar d ++ y := by
  have hd := toNat_scalar d
  by_cases hc1 : c.toNat < 0x80
  · -- A longer encoding has a larger first byte.
    rw [encode_one hc1]
    by_cases hd1 : d.toNat < 0x80
    · rw [encode_one hd1]
      exact (byte_cons_lt (by omega) (by omega) _ _).mpr (.inl h)
    by_cases hd2 : d.toNat < 0x800
    · rw [encode_two (by omega) hd2]
      exact (byte_cons_lt (by omega) (by omega) _ _).mpr (.inl (by omega))
    by_cases hd3 : d.toNat < 0x10000
    · rw [encode_three (by omega) hd3]
      exact (byte_cons_lt (by omega) (by omega) _ _).mpr (.inl (by omega))
    · rw [encode_four (by omega)]
      exact (byte_cons_lt (by omega) (by omega) _ _).mpr (.inl (by omega))
  by_cases hc2 : c.toNat < 0x800
  · rw [encode_two (by omega) hc2]
    by_cases hd2 : d.toNat < 0x800
    · rw [encode_two (by omega) hd2]
      simp only [List.cons_append, List.nil_append]
      rw [byte_cons_lt (by omega) (by omega), byte_cons_lt (by omega) (by omega)]
      rcases Nat.lt_or_ge (c.toNat / 64) (d.toNat / 64) with hlt | hge
      · exact .inl (by omega)
      · exact .inr ⟨by omega, .inl (by omega)⟩
    by_cases hd3 : d.toNat < 0x10000
    · rw [encode_three (by omega) hd3]
      exact (byte_cons_lt (by omega) (by omega) _ _).mpr (.inl (by omega))
    · rw [encode_four (by omega)]
      exact (byte_cons_lt (by omega) (by omega) _ _).mpr (.inl (by omega))
  by_cases hc3 : c.toNat < 0x10000
  · rw [encode_three (by omega) hc3]
    by_cases hd3 : d.toNat < 0x10000
    · rw [encode_three (by omega) hd3]
      simp only [List.cons_append, List.nil_append]
      rw [byte_cons_lt (by omega) (by omega), byte_cons_lt (by omega) (by omega),
        byte_cons_lt (by omega) (by omega)]
      rcases Nat.lt_or_ge (c.toNat / 4096) (d.toNat / 4096) with hlt | hge
      · exact .inl (by omega)
      refine .inr ⟨by omega, ?_⟩
      rcases Nat.lt_or_ge (c.toNat / 64) (d.toNat / 64) with hlt' | hge'
      · exact .inl (by omega)
      · exact .inr ⟨by omega, .inl (by omega)⟩
    · rw [encode_four (by omega)]
      exact (byte_cons_lt (by omega) (by omega) _ _).mpr (.inl (by omega))
  · rw [encode_four (by omega), encode_four (by omega)]
    simp only [List.cons_append, List.nil_append]
    rw [byte_cons_lt (by omega) (by omega), byte_cons_lt (by omega) (by omega),
      byte_cons_lt (by omega) (by omega), byte_cons_lt (by omega) (by omega)]
    rcases Nat.lt_or_ge (c.toNat / 262144) (d.toNat / 262144) with hlt | hge
    · exact .inl (by omega)
    refine .inr ⟨by omega, ?_⟩
    rcases Nat.lt_or_ge (c.toNat / 4096) (d.toNat / 4096) with hlt' | hge'
    · exact .inl (by omega)
    refine .inr ⟨by omega, ?_⟩
    rcases Nat.lt_or_ge (c.toNat / 64) (d.toNat / 64) with hlt'' | hge''
    · exact .inl (by omega)
    · exact .inr ⟨by omega, .inl (by omega)⟩

/-- **Two texts** are in the order of their bytes. -/
theorem encodings_lt_encodings {cs ds : List Char} (h : cs < ds) : encodings cs < encodings ds := by
  induction cs generalizing ds with
  | nil =>
      cases ds with
      | nil => exact absurd h (List.lt_irrefl [])
      | cons d ds =>
          have hne : encodings (d :: ds) ≠ [] := by
            rw [encodings_cons, Ne, List.append_eq_nil_iff]
            exact fun hnil => String.utf8EncodeChar_ne_nil hnil.1
          obtain ⟨b, bs, hbs⟩ := List.exists_cons_of_ne_nil hne
          rw [hbs]
          exact List.nil_lt_cons b bs
  | cons c cs ih =>
      cases ds with
      | nil => exact absurd h (List.not_lt_nil _)
      | cons d ds =>
          rw [encodings_cons, encodings_cons]
          rcases List.cons_lt_cons_iff.mp h with hlt | ⟨rfl, hlt⟩
          · exact encode_lt_encode hlt _ _
          · exact List.append_left_lt (ih hlt)

theorem encode_lt_of_lt {s s' : String} (h : s < s') : (encode s).toList < (encode s').toList := by
  rw [toList_encode, toList_encode]
  exact encodings_lt_encodings (String.lt_iff.mp h)

end Utf8

/-! ### Members told apart by names -/

namespace Named

variable {α : Type} (name : α → String) {l : List α}

theorem mem_iff_find? (h : (l.map name).Nodup) {a : α} :
    a ∈ l ↔ l.find? (fun b => name b = name a) = some a := by
  refine ⟨fun ha => ?_, List.mem_of_find?_eq_some⟩
  obtain ⟨b, hb⟩ : ∃ b, l.find? (fun b => name b = name a) = some b :=
    Option.isSome_iff_exists.mp (List.find?_isSome.mpr ⟨a, ha, by simp⟩)
  have hname : name b = name a := by simpa using List.find?_some hb
  rw [hb, List.inj_on_of_nodup_map h (List.mem_of_find?_eq_some hb) ha hname]

theorem pairwise_mergeSort (l : List α) :
    (l.mergeSort fun a b => name a ≤ name b).Pairwise fun a b => name a ≤ name b := by
  have htrans : ∀ a b c : α, decide (name a ≤ name b) = true → decide (name b ≤ name c) = true →
      decide (name a ≤ name c) = true := by
    simpa using fun a b c : α => String.le_trans
  have htotal : ∀ a b : α, (decide (name a ≤ name b) || decide (name b ≤ name a)) = true := by
    simpa using fun a b : α => String.le_total (name a) (name b)
  exact (List.pairwise_mergeSort htrans htotal l).imp of_decide_eq_true

/-- **Sorted by different names**, the bytes of the names increase from one member to the next. -/
theorem increasing_mergeSort (h : (l.map name).Nodup) :
    (l.mergeSort fun a b => name a ≤ name b).Pairwise fun a b =>
      (Utf8.encode (name a)).toList < (Utf8.encode (name b)).toList := by
  have hperm := List.mergeSort_perm l fun a b => name a ≤ name b
  have hne : (l.mergeSort fun a b => name a ≤ name b).Pairwise fun a b => name a ≠ name b :=
    List.pairwise_map.mp ((hperm.map name).nodup_iff.mpr h)
  refine ((pairwise_mergeSort name l).and hne).imp ?_
  rintro a b ⟨hle, hne⟩
  exact Utf8.encode_lt_of_lt (Std.lt_of_le_of_ne hle hne)

end Named
end GuestHost
