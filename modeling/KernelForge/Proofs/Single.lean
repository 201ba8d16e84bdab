import Mathlib
import KernelForge.Proofs.Half
import KernelForge.Proofs.Rounding

/-!
Single precision obeys the laws of rounding. A value is a pattern in which all NaNs are one: a pattern that
goes through a value comes back as it was unless it was a NaN, and that one NaN has the same pattern in every
format.
-/

namespace KernelForge

namespace Single

open Float.Model.UnpackedFloat (isNaNBits pack_unpack unpackExponent unpackMantissa)

/-- What is no number has a magnitude above that of the infinity. -/
theorem isNaNBits_iff (pattern : UInt32) :
    @isNaNBits .binary32 pattern.toBitVec = true ↔ 0x7F800000 < pattern.toNat % 2 ^ 31 := by
  have exponent : (@unpackExponent .binary32 pattern.toBitVec).toNat = pattern.toNat / 2 ^ 23 % 2 ^ 8 := by
    simp [unpackExponent, Nat.shiftRight_eq_div_pow]
  have fraction : (@unpackMantissa .binary32 pattern.toBitVec).toNat = pattern.toNat % 2 ^ 23 := by
    simp [unpackMantissa]
  simp only [isNaNBits, decide_eq_true_eq, ne_eq, ← BitVec.toNat_inj, exponent, fraction]
  simp
  omega

/-- A pattern that is no NaN is kept as it is. -/
theorem toBits_ofBits {pattern : UInt32} (number : pattern.toNat % 2 ^ 31 ≤ 0x7F800000) :
    (Float32.ofBits pattern).toBits = pattern := by
  have same := @pack_unpack .binary32 pattern.toBitVec (by decide)
  rw [if_neg fun nan => Nat.not_lt.mpr number ((isNaNBits_iff pattern).mp nan)] at same
  exact UInt32.eq_of_toBitVec_eq same

/-- All patterns of NaNs are the same NaN. -/
theorem toBits_ofBits_nan {pattern : UInt32} (nan : 0x7F800000 < pattern.toNat % 2 ^ 31) :
    (Float32.ofBits pattern).toBits = 0x7FC00000 := by
  have same := @pack_unpack .binary32 pattern.toBitVec (by decide)
  rw [if_pos ((isNaNBits_iff pattern).mpr nan)] at same
  exact UInt32.eq_of_toBitVec_eq same

end Single

namespace Precision

theorem roundBits_roundBits (precision : Precision) (pattern : UInt32) :
    precision.roundBits (precision.roundBits pattern) = precision.roundBits pattern := by
  unfold roundBits
  split
  · rw [Half.narrow_widen_narrow]
  · split
    · rw [Bfloat.narrow_widen_narrow]
    · rfl

theorem roundBits_zero (precision : Precision) : precision.roundBits 0 = 0 := by
  unfold roundBits
  split
  · rfl
  · split
    · rfl
    · rfl

theorem roundBits_nan (precision : Precision) : precision.roundBits 0x7FC00000 = 0x7FC00000 := by
  unfold roundBits
  split
  · rfl
  · split
    · rfl
    · rfl

theorem round_zero (precision : Precision) : precision.round 0 = 0 := by
  have zero : (0 : Float32).toBits = 0 := rfl
  have back : Float32.ofBits 0 = 0 := rfl
  unfold round
  rw [zero, roundBits_zero, back, ite_self]

theorem round_round (precision : Precision) (value : Float32) :
    precision.round (precision.round value) = precision.round value := by
  unfold round
  split
  · have kept := roundBits_roundBits precision value.toBits
    generalize precision.roundBits value.toBits = pattern at *
    rw [← Float32.toBits_inj]
    by_cases number : pattern.toNat % 2 ^ 31 ≤ 0x7F800000
    · rw [Single.toBits_ofBits number, kept, Single.toBits_ofBits number]
    · have nan := Single.toBits_ofBits_nan (Nat.not_le.mp number)
      rw [nan, roundBits_nan]
      exact Single.toBits_ofBits_nan (by decide)
  · rfl

end Precision

instance : LawfulRounding Float32 where
  round_zero := Precision.round_zero
  round_round := Precision.round_round

end KernelForge
