import GuestHost.Decimal.Binary
import Mathlib.Algebra.Group.Int.Defs
import Mathlib.Algebra.Group.Nat.Defs
import Mathlib.Tactic.SplitIfs
import Mathlib.Order.Nat

/-! # Whole numbers as doubles

A whole number that fits in the 53 bits of a significand is a double, and cutting the double to a whole
number gives it back (`Binary.truncate_ofInt`).

* **Fields.**  The bits that `Binary.parts` takes from a double are those that its model unpacks
  (`Binary.exponentBits_eq`, `Binary.fractionBits_eq`, `Binary.isNegative_eq`).
* **Rounding.**  A significand with zeros below its 53rd bit is rounded to itself
  (`Binary.roundWithAccuracy_shifted`). -/

namespace GuestHost.Binary

open Float.Model Float.Model.UnpackedFloat Float.Model.Format

/-! ### The fields of a double -/

theorem exponentBits_eq (x : Float) :
    exponentBits x = (@unpackExponent binary64 x.toBits.toBitVec).toNat := by
  rw [unpackExponent, BitVec.toNat_cast, BitVec.extractLsb_toNat, exponentBits, UInt64.toNat_and,
    UInt64.toNat_shiftRight]
  exact Nat.and_two_pow_sub_one_eq_mod _ 11

theorem fractionBits_eq (x : Float) :
    fractionBits x = (@unpackMantissa binary64 x.toBits.toBitVec).toNat := by
  rw [unpackMantissa, BitVec.toNat_cast, BitVec.extractLsb_toNat, fractionBits, UInt64.toNat_and]
  exact Nat.and_two_pow_sub_one_eq_mod _ 52

theorem toNat_unpackSign (b : BitVec 64) :
    (@unpackSign binary64 b).toNat = b.toNat >>> 63 % 2 ^ 1 :=
  BitVec.extractLsb_toNat 63 63 b

theorem isNegative_eq (x : Float) :
    isNegative x = (@unpackSign binary64 x.toBits.toBitVec == 1#1) := by
  have hword : (x.toBits >>> 63).toNat = (@unpackSign binary64 x.toBits.toBitVec).toNat := by
    have hlt : x.toBits.toNat < 2 ^ 64 := x.toBits.toNat_lt
    rw [toNat_unpackSign, UInt64.toNat_shiftRight]
    change x.toBits.toNat >>> 63 = x.toBits.toNat >>> 63 % 2 ^ 1
    rw [Nat.shiftRight_eq_div_pow]
    omega
  rw [isNegative, Bool.eq_iff_iff, beq_iff_eq, beq_iff_eq, ← UInt64.toNat_inj,
    ← BitVec.toNat_inj, hword]
  rfl

theorem unpackSign_positive (e : BitVec 11) (m : BitVec 52) :
    unpackSign (packComponents binary64 .positive e m) = 0#1 := by
  have hlt : (packComponents binary64 .positive e m).toNat < 2 ^ 63 := by
    have he := e.isLt
    have hm := m.isLt
    change ((0#1 ++ e) ++ m).toNat < 2 ^ 63
    rw [BitVec.toNat_append, BitVec.toNat_append, BitVec.toNat_zero, Nat.zero_shiftLeft, Nat.zero_or,
      ← Nat.shiftLeft_add_eq_or_of_lt hm, Nat.shiftLeft_eq]
    omega
  rw [← BitVec.toNat_inj, toNat_unpackSign, Nat.shiftRight_eq_div_pow]
  change (packComponents binary64 .positive e m).toNat / 2 ^ 63 % 2 ^ 1 = 0
  omega

/-! ### Normal doubles -/

/-- A significand of 53 bits at a power of two that doubles have. -/
structure Normal (m : Nat) (e : Int) : Prop where
  leading : leadingBit ≤ m
  fits : m < 2 * leadingBit
  least : -1074 ≤ e
  most : e ≤ 971

namespace Normal

variable {m : Nat} {e : Int}

theorem pos (h : Normal m e) : 0 < m := lt_of_lt_of_le (by decide) h.leading

theorem log2_eq (h : Normal m e) : m.log2 = 52 :=
  (Nat.log2_eq_iff h.pos.ne').mpr ⟨h.leading, h.fits⟩

theorem field (h : Normal m e) :
    0 < (e + 1075).toNat ∧ (e + 1075).toNat < 2047 ∧ ((e + 1075).toNat : Int) = e + 1075 := by
  have hleast := h.least
  have hmost := h.most
  omega

theorem pack_finite (m : Nat) (e : Int) (hm : 0 < m) :
    UnpackedFloat.pack binary64 (.finite .positive m e hm) =
      if 2048 ≤ (e + 1023 + 52).toNat + 1 then packedInfinity binary64 .positive
      else if m.log2 + 1 = 53 then
        packComponents binary64 .positive (BitVec.ofNat 11 (e + 1023 + 52).toNat) (BitVec.ofNat 52 m)
      else packComponents binary64 .positive 0#11 (BitVec.ofNat 52 m) :=
  rfl

theorem pack_eq (h : Normal m e) :
    UnpackedFloat.pack binary64 (.finite .positive m e h.pos) =
      packComponents binary64 .positive (BitVec.ofNat 11 (e + 1075).toNat) (BitVec.ofNat 52 m) := by
  have hfield := h.field
  have hbiased : e + 1023 + 52 = e + 1075 := by omega
  rw [pack_finite, hbiased, if_neg (by omega), if_pos (by rw [h.log2_eq])]

theorem toNat_field (h : Normal m e) :
    (BitVec.ofNat 11 (e + 1075).toNat).toNat = (e + 1075).toNat := by
  have hfield := h.field
  rw [BitVec.toNat_ofNat]
  omega

theorem toNat_fraction (h : Normal m e) : leadingBit + (BitVec.ofNat 52 m).toNat = m := by
  have hleading := h.leading
  have hfits := h.fits
  rw [BitVec.toNat_ofNat]
  unfold leadingBit at *
  omega

theorem finite_congr {s s' : Sign} {m m' : Nat} {e e' : Int} {hm : 0 < m} {hm' : 0 < m'} (hs : s = s')
    (hsignificand : m = m') (hexponent : e = e') :
    UnpackedFloat.finite s m e hm = .finite s' m' e' hm' := by
  subst hs hsignificand hexponent
  rfl

/-- What is unpacked when the exponent field is neither full nor zero. -/
theorem unpack_of_field {b : BitVec 64} (hfull : @unpackExponent binary64 b ≠ -1#11)
    (hzero : @unpackExponent binary64 b ≠ 0#11)
    (hm : 0 < (1#1 ++ @unpackMantissa binary64 b).toNat) :
    UnpackedFloat.unpack binary64 b = .finite (Sign.ofBitVec (@unpackSign binary64 b))
      (1#1 ++ @unpackMantissa binary64 b).toNat
      ((@unpackExponent binary64 b).toNat - ((binary64.exponentBias : Int)
        + (binary64.mantissaBitsWithoutImplicit : Int))) hm :=
  (if_neg hfull).trans (if_neg hzero)

theorem unpack_pack (h : Normal m e) :
    (Float.Model.pack (.finite .positive m e h.pos)).unpack = .finite .positive m e h.pos := by
  have hfield := h.field
  have hne : ∀ n : Nat, n < 2048 → n ≠ (e + 1075).toNat →
      BitVec.ofNat 11 (e + 1075).toNat ≠ BitVec.ofNat 11 n := by
    intro n hn hdiffer heq
    have hnat := congrArg BitVec.toNat heq
    rw [h.toNat_field, BitVec.toNat_ofNat] at hnat
    omega
  have hfull : BitVec.ofNat 11 (e + 1075).toNat ≠ -1#11 := hne 2047 (by decide) (by omega)
  have hzero : BitVec.ofNat 11 (e + 1075).toNat ≠ 0#11 := hne 0 (by decide) (by omega)
  have hsignificand : (1#1 ++ BitVec.ofNat 52 m).toNat = m := by
    rw [BitVec.toNat_append, ← Nat.shiftLeft_add_eq_or_of_lt (BitVec.isLt _)]
    exact h.toNat_fraction
  have hexponent : ((BitVec.ofNat 11 (e + 1075).toNat).toNat : Int)
      - ((binary64.exponentBias : Int) + (binary64.mantissaBitsWithoutImplicit : Int)) = e := by
    rw [h.toNat_field]
    change _ - (1023 + 52) = e
    omega
  change UnpackedFloat.unpack binary64 (UnpackedFloat.pack binary64 _) = _
  rw [h.pack_eq]
  refine (unpack_of_field ?_ ?_ ?_).trans (finite_congr ?_ ?_ ?_)
  · rwa [unpackExponent_packComponents]
  · rwa [unpackExponent_packComponents]
  · rw [unpackMantissa_packComponents]
    exact hsignificand.symm ▸ h.pos
  · rw [unpackSign_positive]
    rfl
  · rwa [unpackMantissa_packComponents]
  · rwa [unpackExponent_packComponents]

theorem parts_pack (h : Normal m e) :
    parts ⟨Float.Model.pack (.finite .positive m e h.pos)⟩ = ⟨false, m, e⟩ := by
  have hfield := h.field
  have hbits : (Float.toBits ⟨Float.Model.pack (.finite .positive m e h.pos)⟩).toBitVec =
      packComponents binary64 .positive (BitVec.ofNat 11 (e + 1075).toNat) (BitVec.ofNat 52 m) :=
    h.pack_eq
  rw [parts, exponentBits_eq, fractionBits_eq, isNegative_eq, hbits, unpackExponent_packComponents,
    unpackMantissa_packComponents, unpackSign_positive, h.toNat_field]
  simp only
  rw [if_neg (by omega), h.toNat_fraction, hfield.2.2]
  exact congrArg _ (by omega)

end Normal

/-! ### Rounding what needs no rounding -/

theorem log2_mul_two_pow {m : Nat} (hm : 0 < m) (k : Nat) : (m * 2 ^ k).log2 = m.log2 + k := by
  rw [Nat.log2_eq_iff (Nat.mul_pos hm (Nat.two_pow_pos k)).ne', Nat.pow_add,
    show m.log2 + k + 1 = (m.log2 + 1) + k by omega, Nat.pow_add]
  exact ⟨Nat.mul_le_mul_right _ (Nat.log2_self_le hm.ne'),
    Nat.mul_lt_mul_of_pos_right Nat.lt_log2_self (Nat.two_pow_pos k)⟩

/-- Zeros are shifted out of an exact significand without a trace. -/
theorem repeat_shiftRightOne (m k : Nat) :
    Nat.repeat ExtendedMantissa.shiftRightOne k ⟨m * 2 ^ k, false, false⟩ = ⟨m, false, false⟩ := by
  induction k generalizing m with
  | zero => rw [Nat.pow_zero, Nat.mul_one, Nat.repeat]
  | succ k ih =>
      rw [Nat.repeat, Nat.pow_succ', ← Nat.mul_assoc, ih, ExtendedMantissa.shiftRightOne]
      simp

variable {m : Nat} {e : Int}

theorem shiftToTargetExponent_shifted (h : Normal m e) (k : Nat) :
    shiftToTargetExponent binary64 (m * 2 ^ k) (e - k) .exact = (⟨m, false, false⟩, e) := by
  have htarget : binary64.targetExponent (totalExponent (m * 2 ^ k) (e - k)) = e := by
    rw [totalExponent, log2_mul_two_pow h.pos, h.log2_eq, targetExponent]
    have hleast := h.least
    have hmantissa : (binary64.mantissaBits : Int) = 53 := rfl
    have hmin : binary64.minExponent = -1074 := rfl
    rw [hmantissa, hmin]
    omega
  have hshift : (e - (e - (k : Int))).toNat = k := by omega
  rw [shiftToTargetExponent]
  simp only [htarget, shiftToExponent, hshift]
  rw [show e - (k : Int) + (k : Int) = e by omega]
  exact congrArg (·, e) (repeat_shiftRightOne m k)

/-- **A significand with zeros below its 53rd bit** is rounded to itself. -/
theorem roundWithAccuracy_shifted (h : Normal m e) (k : Nat) :
    roundWithAccuracy binary64 .positive (m * 2 ^ k) (e - k) .exact
      = .finite .positive m e h.pos := by
  have hagain := shiftToTargetExponent_shifted h 0
  rw [Nat.pow_zero, Nat.mul_one, Int.natCast_zero, Int.sub_zero] at hagain
  have hrounded : ExtendedMantissa.roundedMantissa ⟨m, false, false⟩ = m := rfl
  rw [roundWithAccuracy, shiftToTargetExponent_shifted h k]
  dsimp only
  rw [hrounded, hagain]
  exact dif_neg h.pos.ne'

/-! ### Whole numbers -/

section whole
variable {n : Nat} (hpos : 0 < n) (hlt : n < 2 * leadingBit)
include hpos hlt

theorem normal_whole : Normal (n * 2 ^ (52 - n.log2)) (n.log2 - 52) := by
  have hlog : n.log2 ≤ 52 := Nat.lt_succ_iff.mp ((Nat.log2_lt hpos.ne').mpr hlt)
  have hle := Nat.mul_le_mul_right (2 ^ (52 - n.log2)) (Nat.log2_self_le hpos.ne')
  have hfits := Nat.mul_lt_mul_of_pos_right (k := 2 ^ (52 - n.log2)) (Nat.lt_log2_self (n := n))
    (Nat.two_pow_pos _)
  rw [← Nat.pow_add] at hle hfits
  refine ⟨?_, ?_, by omega, by omega⟩
  · rwa [show n.log2 + (52 - n.log2) = 52 by omega] at hle
  · rwa [show n.log2 + 1 + (52 - n.log2) = 53 by omega] at hfits

theorem ofUInt64_eq :
    Float.Model.ofUInt64 (UInt64.ofNat n) = Float.Model.pack
      (.finite .positive (n * 2 ^ (52 - n.log2)) (n.log2 - 52) (normal_whole hpos hlt).pos) := by
  have h := normal_whole hpos hlt
  have hlog : n.log2 ≤ 52 := Nat.lt_succ_iff.mp ((Nat.log2_lt hpos.ne').mpr hlt)
  have hword : (UInt64.ofNat n).toNat = n := by
    rw [UInt64.toNat_ofNat']
    exact Nat.mod_eq_of_lt (lt_trans hlt (by decide))
  have hcompare : compare (n : Int) 0 = .gt := by
    rw [Int.compare_eq_gt]
    omega
  have htarget : binary64.targetExponent (totalExponent n 0) = (n.log2 : Int) - 52 := by
    have hmantissa : (binary64.mantissaBits : Int) = 53 := rfl
    have hmin : binary64.minExponent = -1074 := rfl
    rw [totalExponent, targetExponent, hmantissa, hmin]
    omega
  have hshift : (0 - ((n.log2 : Int) - 52)).toNat = 52 - n.log2 := by omega
  have hexponent : (0 : Int) - ((52 - n.log2 : Nat) : Int) = (n.log2 : Int) - 52 := by omega
  have hround := roundWithAccuracy_shifted h 0
  rw [Nat.pow_zero, Nat.mul_one, Int.natCast_zero, Int.sub_zero] at hround
  rw [Float.Model.ofUInt64, UnpackedFloat.ofUInt64, hword, UnpackedFloat.ofNat,
    UnpackedFloat.ofInt, UnpackedFloat.normalize, hcompare]
  dsimp only [Int.toNat_natCast]
  rw [UnpackedFloat.round, htarget, decreaseExponent]
  dsimp only
  rw [hshift, Nat.shiftLeft_eq, hexponent, hround]

/-- A whole number as a double. -/
theorem ofNat_eq :
    Float.ofNat n = ⟨Float.Model.pack
      (.finite .positive (n * 2 ^ (52 - n.log2)) (n.log2 - 52) (normal_whole hpos hlt).pos)⟩ := by
  have h := normal_whole hpos hlt
  have hone : (Float.ofBits 4607182418800017408).toModel.unpack
      = .finite .positive (2 ^ 52) (-52) (by decide) := rfl
  have hfew : Float.ofNat n =
      ⟨Float.Model.ofUInt64 (UInt64.ofNat n) * (Float.ofBits 4607182418800017408).toModel⟩ :=
    dif_pos ⟨hlt, by decide⟩
  rw [hfew, ofUInt64_eq hpos hlt]
  change Float.ofModel (Float.Model.pack (UnpackedFloat.mul binary64 _ _)) = _
  rw [h.unpack_pack, hone]
  exact congrArg (fun x => Float.ofModel (Float.Model.pack x)) (roundWithAccuracy_shifted h 52)

end whole

/-- **Whole numbers of 53 bits** are doubles, and cutting the double gives them back. -/
theorem truncate_ofInt {n : Int} (hpos : 0 < n) (hlt : n < 2 * leadingBit) :
    truncate (Float.ofInt n) = n := by
  obtain ⟨k, rfl⟩ := Int.eq_ofNat_of_zero_le (Int.le_of_lt hpos)
  have hkpos : 0 < k := by exact_mod_cast hpos
  have hklt : k < 2 * leadingBit := by exact_mod_cast hlt
  have hlog : k.log2 ≤ 52 := Nat.lt_succ_iff.mp ((Nat.log2_lt hkpos.ne').mpr hklt)
  have hparts : parts (Float.ofInt k) = ⟨false, k * 2 ^ (52 - k.log2), (k.log2 : Int) - 52⟩ := by
    change parts (Float.ofNat k) = _
    rw [ofNat_eq hkpos hklt, (normal_whole hkpos hklt).parts_pack]
  rw [truncate, hparts]
  simp only [Bool.false_eq_true, if_false]
  split_ifs with hpower
  · have hzero : 52 - k.log2 = 0 := by omega
    rw [hzero, show ((k.log2 : Int) - 52).toNat = 0 by omega]
    simp
  · rw [show (-((k.log2 : Int) - 52)).toNat = 52 - k.log2 by omega, Nat.shiftRight_eq_div_pow,
      Nat.mul_div_cancel _ (Nat.two_pow_pos _)]

end GuestHost.Binary
