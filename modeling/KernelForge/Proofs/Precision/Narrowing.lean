import KernelForge.Proofs.Precision.Nearest

/-!
The 16 bit formats among the 32 bit one. Narrowing gives the nearest number of the format with the sign it had, an
infinity from half a unit above the largest number on, and a zero of the same sign below half of the least subnormal
number. Widening changes no number.
-/

namespace KernelForge

open Float.Model (UnpackedFloat)
open Float.Model.UnpackedFloat (Sign unpack)
open Binary

namespace Binary

variable {wide format : Float.Model.Format} {shift : Nat} {given : BitVec format.numBits} {found : BitVec wide.numBits}

/-- A longer format takes in a number if it counts the same in its units. -/
theorem same_of_units (finer : unit format = 2 ^ shift * unit wide) (number : magnitude given ≤ infinite format)
    (sign : signOf found = signOf given)
    (infinity : magnitude given = infinite format → magnitude found = infinite wide)
    (finite : magnitude given < infinite format → magnitude found < infinite wide ∧
      units wide.mantissaBitsWithoutImplicit (magnitude found) =
        units format.mantissaBitsWithoutImplicit (magnitude given) * 2 ^ shift) :
    Same (unpack format given) (unpack wide found) := by
  rcases Nat.lt_or_eq_of_le number with below | top
  · obtain ⟨within, counted⟩ := finite below
    have value : (units wide.mantissaBitsWithoutImplicit (magnitude found) : ℚ) * unit wide =
        units format.mantissaBitsWithoutImplicit (magnitude given) * unit format := by
      rw [counted, finer, Nat.cast_mul, Nat.cast_pow, Nat.cast_ofNat, mul_assoc]
    refine ⟨?_, ?_, ?_⟩
    · rw [sign?_unpack number, sign?_unpack within.le, sign]
    · rw [Bool.eq_iff_iff, isInf_unpack_iff, isInf_unpack_iff]
      exact ⟨fun equal => absurd equal below.ne, fun equal => absurd equal within.ne⟩
    · rw [number?_unpack below, number?_unpack within, sign, value]
  · have reached := infinity top
    rw [unpack_of_infinite_le top.ge, unpack_of_infinite_le reached.ge, if_pos top, if_pos reached, sign]
    exact ⟨rfl, rfl, rfl⟩

end Binary

namespace Single

/-- What a pattern of 32 bits denotes. -/
def parts (pattern : UInt32) : UnpackedFloat :=
  unpack .binary32 pattern.toBitVec

end Single

namespace Half

/-- Five exponent bits and ten bits after the point. -/
abbrev format : Float.Model.Format where
  mantissaBitsWithoutImplicit := 10
  exponentBits := 5

/-- What a pattern denotes. -/
def parts (half : Half) : UnpackedFloat :=
  unpack format half.bits.toBitVec

theorem unit_eq : unit format = 2 ^ 125 * unit .binary32 := by
  norm_num [unit, Float.Model.Format.exponentBias]

/-- Below the normal numbers the significand is rounded to whole units, of which there are too few for a normal one. -/
theorem narrowMagnitude_subnormal {magnitude : Nat} (subnormal : magnitude < 0x38800000) :
    narrowMagnitude magnitude = roundShift (units 23 magnitude) 125 ∧ units 23 magnitude / 2 ^ 125 < 2 ^ 10 := by
  constructor
  · rw [narrowMagnitude, if_neg (by omega), if_neg (by omega), if_pos subnormal]
    by_cases tiny : magnitude / 0x800000 = 0
    · have same : magnitude % 0x800000 = units 23 magnitude := by
        rw [units_of_lt (by omega)]
        omega
      rw [if_pos tiny, same]
    · have scaled : units 23 magnitude =
          (magnitude % 0x800000 + 0x800000) * 2 ^ (magnitude / 0x800000 - 1) := by
        rw [Nat.add_comm]
        exact if_neg tiny
      have shifted := roundShift_mul_two_pow (magnitude % 0x800000 + 0x800000) (126 - magnitude / 0x800000)
        (magnitude / 0x800000 - 1)
      rw [← scaled, show 126 - magnitude / 0x800000 + (magnitude / 0x800000 - 1) = 125 by omega] at shifted
      rw [if_neg tiny, ← shifted]
  · rw [Nat.div_lt_iff_lt_mul (Nat.two_pow_pos 125)]
    exact Nat.lt_of_lt_of_eq (units_strictMono 23 subnormal) (by decide)

/-- A normal number is rounded at a bit, with its exponent counted from the bias of the shorter format. -/
theorem narrowMagnitude_normal {magnitude : Nat} (normal : 0x38800000 ≤ magnitude) (small : magnitude < 0x477FF000) :
    narrowMagnitude magnitude = roundShift (magnitude - 0x38000000) 13 := by
  have cases := roundShift_cases (magnitude - 0x38000000) 13
  rw [narrowMagnitude, if_neg (by omega), if_neg (by omega), if_neg (by omega)]
  simp only
  omega

theorem closest_narrowMagnitude {magnitude : Nat} (small : magnitude < 0x477FF000) :
    Closest (fun other => units 10 other * 2 ^ 125) (units 23 magnitude) (narrowMagnitude magnitude) := by
  by_cases subnormal : magnitude < 0x38800000
  · obtain ⟨rounded, bound⟩ := narrowMagnitude_subnormal subnormal
    rw [rounded]
    exact closest_subnormal bound
  · have rebased : units 23 magnitude = units 23 (magnitude - 0x38000000) * 2 ^ 112 := by
      rw [← units_add_exponent 112 (by omega)]
      congr 1
      omega
    have closest := (closest_roundShift 10 13 (magnitude - 0x38000000)).mul (Nat.two_pow_pos 112)
    simp only [Nat.mul_assoc, ← Nat.pow_add] at closest
    rw [narrowMagnitude_normal (Nat.le_of_not_lt subnormal) small, rebased]
    exact closest

/-- Numbers from the limit on become the infinity, and no others do. -/
theorem narrowMagnitude_overflows {magnitude : Nat} (number : magnitude ≤ 0x7F800000) :
    narrowMagnitude magnitude ≤ 0x7C00 ∧ (narrowMagnitude magnitude = 0x7C00 ↔ 0x477FF000 ≤ magnitude) := by
  by_cases large : 0x477FF000 ≤ magnitude
  · have infinity : narrowMagnitude magnitude = 0x7C00 := by
      rw [narrowMagnitude, if_neg (by omega), if_pos large]
    omega
  · have finite : narrowMagnitude magnitude < 0x7C00 := by
      by_cases subnormal : magnitude < 0x38800000
      · obtain ⟨rounded, bound⟩ := narrowMagnitude_subnormal subnormal
        have upper := roundShift_le (units 23 magnitude) 125
        omega
      · rw [narrowMagnitude_normal (Nat.le_of_not_lt subnormal) (Nat.lt_of_not_le large)]
        have cases := roundShift_cases (magnitude - 0x38000000) 13
        omega
    omega

theorem magnitude_narrow (pattern : UInt32) :
    @magnitude format (narrow pattern).bits.toBitVec = narrowMagnitude (pattern.toNat % 2 ^ 31) := by
  change (narrow pattern).bits.toNat % 2 ^ 15 = _
  rw [narrow_toNat, Nat.mul_add_mod_self_right]
  exact Nat.mod_eq_of_lt (narrowMagnitude_lt _)

theorem signOf_narrow (pattern : UInt32) :
    @signOf format (narrow pattern).bits.toBitVec = @signOf .binary32 pattern.toBitVec := by
  have bound := narrowMagnitude_lt (pattern.toNat % 2 ^ 31)
  refine if_congr ?_ rfl rfl
  change (narrow pattern).bits.toNat < 2 ^ 15 ↔ pattern.toNat < 2 ^ 31
  rw [narrow_toNat]
  omega

theorem narrow_roundsTo {pattern : UInt32} (number : Single.parts pattern ≠ .notANumber) :
    RoundsTo format 65520 (Single.parts pattern) (narrow pattern).parts := by
  have bound : pattern.toNat % 2 ^ 31 ≤ 0x7F800000 := unpack_ne_notANumber_iff.mp number
  obtain ⟨converted, overflows⟩ := narrowMagnitude_overflows bound
  have limit : (units 23 0x477FF000 * unit .binary32 : ℚ) = 65520 := by
    norm_num [units, unit, Float.Model.Format.exponentBias]
  rw [← limit]
  refine roundsTo_of_closest unit_eq bound ?_ (signOf_narrow pattern) (by decide) ?_ ?_
  · rw [magnitude_narrow]
    exact converted
  · rw [magnitude_narrow]
    exact overflows
  · intro small
    rw [magnitude_narrow]
    exact closest_narrowMagnitude small

/-- Widening counts the same number in finer units. A subnormal number gets its leading bit as the implicit one. -/
theorem units_widenMagnitude {exponent fraction : Nat} (finite : exponent < 31) (small : fraction < 1024) :
    widenMagnitude exponent fraction < 0x7F800000 ∧
      units 23 (widenMagnitude exponent fraction) = units 10 (exponent * 1024 + fraction) * 2 ^ 125 := by
  unfold widenMagnitude
  by_cases subnormal : exponent = 0
  · subst subnormal
    rw [if_pos rfl, Nat.zero_mul, Nat.zero_add, @units_of_lt 10 _ small]
    by_cases zero : fraction = 0
    · subst zero
      decide
    · obtain ⟨short, rest⟩ := subnormal_rest_lt zero small
      have leading : 2 ^ 23 = 2 ^ fraction.log2 * 2 ^ (23 - fraction.log2) := by
        rw [← Nat.pow_add, show fraction.log2 + (23 - fraction.log2) = 23 by omega]
      have whole : 2 ^ 23 + (fraction - 2 ^ fraction.log2) * 2 ^ (23 - fraction.log2) =
          fraction * 2 ^ (23 - fraction.log2) := by
        rw [leading, ← Nat.add_mul, Nat.add_sub_cancel' (Nat.log2_self_le zero)]
      rw [if_neg zero]
      refine ⟨by omega, ?_⟩
      have counted := @units_of_parts 23 (fraction.log2 + 103) _ (Nat.succ_ne_zero _) rest
      refine counted.trans ?_
      rw [whole, Nat.mul_assoc, ← Nat.pow_add, show 23 - fraction.log2 + (fraction.log2 + 103 - 1) = 125 by omega]
  · rw [if_neg subnormal, if_neg finite.ne]
    have rebased : (exponent + 112) * 0x800000 + fraction * 8192 =
        (exponent * 1024 + fraction) * 2 ^ 13 + 112 * 2 ^ 23 := by
      omega
    refine ⟨by omega, ?_⟩
    rw [rebased, units_add_exponent 112 (by omega), units_mul_two_pow 10 13, Nat.mul_assoc, ← Nat.pow_add]

theorem widen_same {half : Half} (number : half.parts ≠ .notANumber) : Same half.parts (Single.parts half.widen) := by
  have bound : half.bits.toNat % 2 ^ 15 ≤ 0x7C00 := unpack_ne_notANumber_iff.mp number
  have low : half.bits.toNat / 1024 % 32 < 32 := Nat.mod_lt _ (by decide)
  have small : half.bits.toNat % 1024 < 1024 := Nat.mod_lt _ (by decide)
  have split : half.bits.toNat % 2 ^ 15 = half.bits.toNat / 1024 % 32 * 1024 + half.bits.toNat % 1024 := by omega
  have top := half.bits.toNat_lt
  have wide := half.widen_toNat
  have limited := widenMagnitude_lt low small
  have kept : @magnitude .binary32 half.widen.toBitVec =
      widenMagnitude (half.bits.toNat / 1024 % 32) (half.bits.toNat % 1024) := by
    change half.widen.toNat % 2 ^ 31 = _
    rw [wide, Nat.mul_add_mod_self_right, Nat.mod_eq_of_lt limited]
  have given : @magnitude format half.bits.toBitVec = half.bits.toNat % 2 ^ 15 := rfl
  have ones : infinite format = 0x7C00 := rfl
  refine same_of_units unit_eq bound ?_ ?_ ?_
  · refine if_congr ?_ rfl rfl
    change half.widen.toNat < 2 ^ 31 ↔ half.bits.toNat < 2 ^ 15
    omega
  · intro infinity
    rw [given, ones] at infinity
    rw [kept, show half.bits.toNat / 1024 % 32 = 31 by omega, show half.bits.toNat % 1024 = 0 by omega]
    rfl
  · intro finite
    rw [given, ones] at finite
    rw [kept, given, split]
    exact units_widenMagnitude (by omega) small

end Half

namespace Bfloat

/-- The exponent bits of single precision, and seven bits after the point. -/
abbrev format : Float.Model.Format where
  mantissaBitsWithoutImplicit := 7
  exponentBits := 8

/-- What a pattern denotes. -/
def parts (bfloat : Bfloat) : UnpackedFloat :=
  unpack format bfloat.bits.toBitVec

theorem unit_eq : unit format = 2 ^ 16 * unit .binary32 := by
  norm_num [unit, Float.Model.Format.exponentBias]

/-- Narrowing keeps the sign and rounds the magnitude, which reaches the infinity at most. -/
theorem narrow_toNat_of_number {pattern : UInt32} (number : pattern.toNat % 2 ^ 31 ≤ 0x7F800000) :
    (narrow pattern).bits.toNat = pattern.toNat / 2 ^ 31 * 2 ^ 15 + roundShift (pattern.toNat % 2 ^ 31) 16 ∧
      roundShift (pattern.toNat % 2 ^ 31) 16 ≤ 0x7F80 ∧
      (roundShift (pattern.toNat % 2 ^ 31) 16 = 0x7F80 ↔ 0x7F7F8000 ≤ pattern.toNat % 2 ^ 31) := by
  have cases := roundShift_cases (pattern.toNat % 2 ^ 31) 16
  rw [narrow_toNat, if_neg (Nat.not_lt.mpr number)]
  omega

theorem narrow_roundsTo {pattern : UInt32} (number : Single.parts pattern ≠ .notANumber) :
    RoundsTo format ((255 + 1 / 2) * 2 ^ 120) (Single.parts pattern) (narrow pattern).parts := by
  have bound : pattern.toNat % 2 ^ 31 ≤ 0x7F800000 := unpack_ne_notANumber_iff.mp number
  obtain ⟨narrowed, converted, overflows⟩ := narrow_toNat_of_number bound
  have kept : @magnitude format (narrow pattern).bits.toBitVec = roundShift (pattern.toNat % 2 ^ 31) 16 := by
    change (narrow pattern).bits.toNat % 2 ^ 15 = _
    omega
  have sign : @signOf format (narrow pattern).bits.toBitVec =
      @signOf .binary32 pattern.toBitVec := by
    refine if_congr ?_ rfl rfl
    change (narrow pattern).bits.toNat < 2 ^ 15 ↔ pattern.toNat < 2 ^ 31
    omega
  have limit : (units 23 0x7F7F8000 * unit .binary32 : ℚ) = (255 + 1 / 2) * 2 ^ 120 := by
    norm_num [units, unit, Float.Model.Format.exponentBias]
  rw [← limit]
  refine roundsTo_of_closest unit_eq bound (kept ▸ converted) sign (by decide) (kept ▸ overflows) ?_
  intro _
  rw [kept]
  exact closest_roundShift 7 16 _

theorem widen_toNat (bfloat : Bfloat) : bfloat.widen.toNat = bfloat.bits.toNat * 2 ^ 16 := by
  have top := bfloat.bits.toNat_lt
  simp [widen, Nat.shiftLeft_eq]
  omega

theorem widen_same {bfloat : Bfloat} (number : bfloat.parts ≠ .notANumber) :
    Same bfloat.parts (Single.parts bfloat.widen) := by
  have bound : bfloat.bits.toNat % 2 ^ 15 ≤ 0x7F80 := unpack_ne_notANumber_iff.mp number
  have wide := bfloat.widen_toNat
  have kept : @magnitude .binary32 bfloat.widen.toBitVec = @magnitude format bfloat.bits.toBitVec * 2 ^ 16 := by
    change bfloat.widen.toNat % 2 ^ 31 = bfloat.bits.toNat % 2 ^ 15 * 2 ^ 16
    rw [wide]
    exact Nat.mul_mod_mul_right (2 ^ 16) bfloat.bits.toNat (2 ^ 15)
  have top : infinite .binary32 = infinite format * 2 ^ 16 := rfl
  refine same_of_units unit_eq bound ?_ ?_ ?_
  · refine if_congr ?_ rfl rfl
    change bfloat.widen.toNat < 2 ^ 31 ↔ bfloat.bits.toNat < 2 ^ 15
    omega
  · intro infinity
    rw [kept, top, infinity]
  · intro finite
    rw [kept, top]
    exact ⟨Nat.mul_lt_mul_of_pos_right finite (by decide), units_mul_two_pow 7 16 _⟩

end Bfloat

namespace Precision

/-- Narrowing to a 16 bit format is correctly rounded, and widening is exact. A number goes to the nearest one of the
    format, a tie to the even significand, with its sign; the infinity takes what is at least half a unit of the last
    place above the largest number, which is 65504 with a unit of 32, and `255 * 2 ^ 120` with a unit of `2 ^ 120`. -/
theorem narrow_roundsTo_widen_same :
    (∀ pattern : UInt32, Single.parts pattern ≠ .notANumber →
      RoundsTo Half.format 65520 (Single.parts pattern) (Half.narrow pattern).parts ∧
      RoundsTo Bfloat.format ((255 + 1 / 2) * 2 ^ 120) (Single.parts pattern) (Bfloat.narrow pattern).parts) ∧
    (∀ half : Half, half.parts ≠ .notANumber → Same half.parts (Single.parts half.widen)) ∧
    ∀ bfloat : Bfloat, bfloat.parts ≠ .notANumber → Same bfloat.parts (Single.parts bfloat.widen) :=
  ⟨fun _ number => ⟨Half.narrow_roundsTo number, Bfloat.narrow_roundsTo number⟩,
    fun _ number => Half.widen_same number, fun _ number => Bfloat.widen_same number⟩

/-- Half of the least subnormal number is a tie with zero, whose significand is even. -/
theorem narrow_roundsTo_half_unit :
    Single.parts 0x33000000 ≠ .notANumber ∧ Half.narrow 0x33000000 = ⟨0⟩ ∧
      RoundsTo Half.format 65520 (Single.parts 0x33000000) (Half.narrow 0x33000000).parts := by
  have number : Single.parts 0x33000000 ≠ .notANumber := unpack_ne_notANumber_iff.mpr (by decide)
  obtain ⟨narrowed, -⟩ := narrow_roundsTo_widen_same
  exact ⟨number, rfl, (narrowed _ number).1⟩

end Precision

end KernelForge
