import GuestHost.Proofs.Decimal.Whole
import Mathlib.Algebra.Order.Field.Power
import Mathlib.Algebra.Order.Ring.Rat

/-! # Values of doubles

A finite double stands for a rational number (`Binary.value?`).

* **Whole numbers** that fit in the 53 bits of a significand have their own value
  (`Binary.value?_ofInt`).
* **Positive doubles.**  Comparing with zero tells the doubles with a positive value from all others
  (`Binary.positive_iff`). -/

namespace GuestHost.Binary

open Float.Model Float.Model.UnpackedFloat

/-- The value of what a double unpacks to; `none` for infinities and for what is no number. -/
def valueOf? : UnpackedFloat → Option ℚ
  | .notANumber => none
  | .infinity _ => none
  | .zero _ => some 0
  | .finite s m e _ => some ((s.apply m : ℤ) * 2 ^ e)

/-- The value of a double, without rounding. -/
def value? (x : Float) : Option ℚ := valueOf? x.toModel.unpack

/-- **Whole numbers of 53 bits** are their own value. -/
theorem value?_ofInt {n : Int} (hpos : 0 < n) (hlt : n < 2 * leadingBit) :
    value? (Float.ofInt n) = some (n : ℚ) := by
  obtain ⟨k, rfl⟩ := Int.eq_ofNat_of_zero_le hpos.le
  have hkpos : 0 < k := by exact_mod_cast hpos
  have hklt : k < 2 * leadingBit := by exact_mod_cast hlt
  have hlog : k.log2 ≤ 52 := Nat.lt_succ_iff.mp ((Nat.log2_lt hkpos.ne').mpr hklt)
  have hnormal := normal_whole hkpos hklt
  have hunpack : (Float.ofInt k).toModel.unpack =
      .finite .positive (k * 2 ^ (52 - k.log2)) (k.log2 - 52) hnormal.pos := by
    change (Float.ofNat k).toModel.unpack = _
    rw [ofNat_eq hkpos hklt]
    exact hnormal.unpack_pack
  have hpowers : (2 : ℚ) ^ (52 - k.log2) * 2 ^ ((k.log2 : ℤ) - 52) = 1 := by
    rw [← zpow_natCast, ← zpow_add₀ two_ne_zero, Nat.cast_sub hlog]
    simp
  rw [value?, hunpack]
  change some ((((k * 2 ^ (52 - k.log2) : ℕ) : ℤ) : ℚ) * 2 ^ ((k.log2 : ℤ) - 52)) = _
  push_cast
  rw [mul_assoc, hpowers, mul_one]

/-- **Positive doubles** are those that are numbers, finite, and not at most zero. -/
theorem positive_iff (x : Float) :
    (x.isNaN = false ∧ x.isInf = false ∧ ¬ x ≤ 0.0) ↔ ∃ q, value? x = some q ∧ 0 < q := by
  have hzero : (0.0 : Float).toModel.unpack = .zero .positive := rfl
  have hle : x ≤ 0.0 ↔ UnpackedFloat.le x.toModel.unpack (.zero .positive) = true := by
    rw [← hzero]
    exact decide_eq_true_iff
  rw [hle]
  change (x.toModel.unpack.isNaN = false ∧ x.toModel.unpack.isInf = false ∧ _) ↔
    ∃ q, valueOf? x.toModel.unpack = some q ∧ 0 < q
  cases x.toModel.unpack with
  | notANumber =>
    refine iff_of_false (fun h => Bool.noConfusion h.1) ?_
    rintro ⟨q, hq, -⟩
    cases hq
  | infinity s =>
    refine iff_of_false (fun h => Bool.noConfusion h.2.1) ?_
    rintro ⟨q, hq, -⟩
    cases hq
  | zero s =>
    refine iff_of_false (fun h => h.2.2 rfl) ?_
    rintro ⟨q, hq, hpos⟩
    obtain rfl : 0 = q := Option.some.inj hq
    exact hpos.false
  | finite s m e hm =>
    have hvalue : 0 < ((m : ℤ) : ℚ) * 2 ^ e :=
      mul_pos (Int.cast_pos.mpr (Int.natCast_pos.mpr hm)) (zpow_pos two_pos e)
    cases s with
    | positive => exact iff_of_true ⟨rfl, rfl, Bool.false_ne_true⟩ ⟨_, rfl, hvalue⟩
    | negative =>
      refine iff_of_false (fun h => h.2.2 rfl) ?_
      rintro ⟨q, hq, hpos⟩
      obtain rfl : ((-(m : ℤ) : ℤ) : ℚ) * 2 ^ e = q := Option.some.inj hq
      rw [Int.cast_neg, neg_mul, Left.neg_pos_iff] at hpos
      exact hpos.not_gt hvalue

end GuestHost.Binary
