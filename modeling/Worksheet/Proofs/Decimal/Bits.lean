import Mathlib
import Worksheet.Decimal.Rounding

namespace Worksheet.Decimal

open Float.Model (Format)
open Float.Model.UnpackedFloat

section Word

variable {word : BitVec Format.binary64.numBits}

theorem toNat_unpackMantissa (word : BitVec Format.binary64.numBits) :
    (unpackMantissa word).toNat = word.toNat % Nat.pow 2 52 := by
  rw [unpackMantissa_def, BitVec.extractLsb'_toNat]
  rfl

theorem toNat_unpackExponent (word : BitVec Format.binary64.numBits) :
    (unpackExponent word).toNat = word.toNat / Nat.pow 2 52 % Nat.pow 2 11 := by
  rw [unpackExponent_def, BitVec.extractLsb'_toNat, Nat.shiftRight_eq_div_pow]
  rfl

theorem exponent_ne_iff (word : BitVec Format.binary64.numBits) :
    unpackExponent word ≠ -1#11 ↔ word.toNat % Nat.pow 2 63 < infinite := by
  have hlt := word.isLt
  have hexponent := toNat_unpackExponent word
  have hones : unpackExponent word = -1#11 ↔ (unpackExponent word).toNat = 2047 :=
    BitVec.toNat_inj.symm
  rw [Ne, hones, hexponent]
  change ¬ word.toNat / 2 ^ 52 % 2 ^ 11 = 2047 ↔ word.toNat % 2 ^ 63 < 2047 * 2 ^ 52
  change word.toNat < 2 ^ 64 at hlt
  omega

theorem valid_of_le (h : word.toNat % Nat.pow 2 63 ≤ infinite) : Format.binary64.Valid word := by
  refine ⟨fun hexponent hmantissa => absurd ?_ hmantissa⟩
  have hlow := toNat_unpackMantissa word
  have hlarge := mt (exponent_ne_iff word).mpr (not_not_intro hexponent)
  apply BitVec.eq_of_toNat_eq
  rw [hlow]
  change word.toNat % 2 ^ 63 ≤ 2047 * 2 ^ 52 at h
  change ¬ word.toNat % 2 ^ 63 < 2047 * 2 ^ 52 at hlarge
  change word.toNat % 2 ^ 52 = 0
  omega

theorem isFinite_unpack (word : BitVec Format.binary64.numBits) :
    (unpack Format.binary64 word).isFinite = true ↔ unpackExponent word ≠ -1#11 := by
  simp only [unpack]
  split
  · rename_i hexponent
    apply iff_of_false _ (not_not_intro hexponent)
    split <;> exact Bool.false_ne_true
  · rename_i hexponent
    apply iff_of_true _ hexponent
    split
    · split <;> rfl
    · rfl

theorem mantissa_ne_iff (word : BitVec Format.binary64.numBits) :
    unpackExponent word = -1#11 ∧ unpackMantissa word ≠ 0#52 ↔
      infinite < word.toNat % Nat.pow 2 63 := by
  have hlow := toNat_unpackMantissa word
  have hzero : unpackMantissa word = 0#52 ↔ (unpackMantissa word).toNat = 0 :=
    BitVec.toNat_inj.symm
  rw [← not_not (a := unpackExponent word = -1#11), ← Ne, exponent_ne_iff, Ne, hzero, hlow]
  change ¬ word.toNat % 2 ^ 63 < 2047 * 2 ^ 52 ∧ ¬ word.toNat % 2 ^ 52 = 0 ↔
    2047 * 2 ^ 52 < word.toNat % 2 ^ 63
  omega

theorem isNaN_unpack (word : BitVec Format.binary64.numBits) :
    (unpack Format.binary64 word).isNaN = true ↔
      unpackExponent word = -1#11 ∧ unpackMantissa word ≠ 0#52 := by
  simp only [unpack]
  split
  · rename_i hexponent
    split
    · rename_i hmantissa
      exact iff_of_false Bool.false_ne_true fun h => h.2 hmantissa
    · rename_i hmantissa
      exact iff_of_true rfl ⟨hexponent, hmantissa⟩
  · rename_i hexponent
    apply iff_of_false _ fun h => hexponent h.1
    split
    · split <;> exact Bool.false_ne_true
    · exact Bool.false_ne_true

end Word

variable {bits : UInt64} {m : Nat}

theorem toBits_ofBits (h : bits.toNat % Nat.pow 2 63 ≤ infinite) :
    (Float.ofBits bits).toBits = bits :=
  congrArg UInt64.ofBitVec (pack_unpack_of_valid (valid_of_le h))

theorem isFinite_iff (x : Float) : x.isFinite = true ↔ magnitude x < infinite :=
  (isFinite_unpack _).trans (exponent_ne_iff _)

theorem isNaN_iff (x : Float) : x.isNaN = true ↔ infinite < magnitude x :=
  (isNaN_unpack _).trans (mantissa_ne_iff _)

theorem float_magnitude (x : Float) : float (isNegative x) (magnitude x) = x := by
  have hbits :
      UInt64.ofNat (magnitude x + if isNegative x then Nat.pow 2 63 else 0) = x.toBits := by
    apply UInt64.toNat.inj
    rw [UInt64.toNat_ofNat', isNegative, magnitude]
    have hlt := x.toBits.toNat_lt
    generalize x.toBits.toNat = n at hlt
    change (n % 2 ^ 63 + if decide (2 ^ 63 ≤ n) then 2 ^ 63 else 0) % 2 ^ 64 = n
    simp only [decide_eq_true_eq]
    split <;> omega
  rw [float, hbits, Float.ofBits_toBits]

theorem toBits_float (negative : Bool) (h : m ≤ infinite) :
    (float negative m).toBits.toNat = m + if negative then Nat.pow 2 63 else 0 := by
  change m ≤ 2047 * 2 ^ 52 at h
  have hword : (UInt64.ofNat (m + if negative then Nat.pow 2 63 else 0)).toNat =
      m + if negative then Nat.pow 2 63 else 0 := by
    rw [UInt64.toNat_ofNat']
    change (m + if negative then 2 ^ 63 else 0) % 2 ^ 64 = m + if negative then 2 ^ 63 else 0
    split <;> omega
  rw [float, toBits_ofBits, hword]
  rw [hword]
  change (m + if negative then 2 ^ 63 else 0) % 2 ^ 63 ≤ 2047 * 2 ^ 52
  split <;> omega

theorem isNegative_float (negative : Bool) (h : m ≤ infinite) :
    isNegative (float negative m) = negative := by
  rw [isNegative, toBits_float negative h]
  change m ≤ 2047 * 2 ^ 52 at h
  change decide (2 ^ 63 ≤ m + if negative then 2 ^ 63 else 0) = negative
  cases negative with
  | false =>
    rw [if_neg Bool.false_ne_true]
    exact decide_eq_false (by omega)
  | true =>
    rw [if_pos rfl]
    exact decide_eq_true (by omega)

end Worksheet.Decimal
