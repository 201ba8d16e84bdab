import Mathlib.Data.Nat.Bitwise
import KernelForge.Half

/-!
The 16 bit formats over the natural numbers. Both conversions keep the sign and work on the magnitude, which
is an integer below `2^31` or `2^15`; the bit operations on patterns are divisions and remainders of it. What
narrowing gives is a number or a NaN that is quiet, and both are kept by going to 32 bits and back.
-/

namespace KernelForge

/-- Bits above a boundary beside bits below it. -/
theorem or_eq_add (high : Nat) {low width : Nat} (below : low < 2 ^ width) :
    high * 2 ^ width ||| low = high * 2 ^ width + low := by
  rw [Nat.mul_comm, Nat.two_pow_add_eq_or_of_lt below]

/-- The highest bit alone. -/
theorem and_highest {value width : Nat} (below : value < 2 ^ (width + 1)) :
    value &&& 2 ^ width = value / 2 ^ width * 2 ^ width := by
  have bit : value / 2 ^ width < 2 := by
    rw [Nat.div_lt_iff_lt_mul (Nat.two_pow_pos width), Nat.mul_comm, ← Nat.pow_succ]
    exact below
  rw [Nat.and_two_pow, Nat.testBit_eq_decide_div_mod_eq, Nat.mod_eq_of_lt bit]
  obtain clear | set := Nat.le_one_iff_eq_zero_or_eq_one.mp (Nat.lt_succ_iff.mp bit)
  · simp [clear]
  · simp [set]

theorem or_one (value : Nat) : value ||| 1 = value / 2 * 2 + 1 := by
  have split : value = value / 2 * 2 ^ 1 ||| value % 2 := by
    rw [or_eq_add _ (show value % 2 < 2 ^ 1 by omega)]
    omega
  have absorbed : value % 2 ||| 1 = 1 := by
    obtain even | odd := Nat.mod_two_eq_zero_or_one value
    · rw [even]; rfl
    · rw [odd]; rfl
  calc value ||| 1 = value / 2 * 2 ^ 1 ||| (value % 2 ||| 1) := by rw [← Nat.or_assoc, ← split]
    _ = value / 2 * 2 + 1 := by rw [absorbed, or_eq_add _ (by decide), Nat.pow_one]

/-- Bits above a boundary, the lowest of them set, take in that bit and leave those below. -/
theorem or_eq_add_mod {high low width : Nat} (odd : high % 2 = 1) (below : low < 2 ^ (width + 1)) :
    high * 2 ^ width ||| low = high * 2 ^ width + low % 2 ^ width := by
  have positive := Nat.two_pow_pos width
  have bit : low / 2 ^ width < 2 := by
    rw [Nat.div_lt_iff_lt_mul positive, Nat.mul_comm, ← Nat.pow_succ]
    exact below
  have kept : high ||| low / 2 ^ width = high := by
    obtain clear | set := Nat.le_one_iff_eq_zero_or_eq_one.mp (Nat.lt_succ_iff.mp bit)
    · rw [clear, Nat.or_zero]
    · rw [set, or_one]
      omega
  have upper : (high * 2 ^ width ||| low) / 2 ^ width = high := by
    rw [Nat.or_div_two_pow, Nat.mul_div_cancel _ positive, kept]
  have lower : (high * 2 ^ width ||| low) % 2 ^ width = low % 2 ^ width := by
    rw [Nat.or_mod_two_pow, Nat.mul_mod_left, Nat.zero_or]
  rw [← Nat.div_add_mod' (high * 2 ^ width ||| low) (2 ^ width), upper, lower]

theorem magnitude_toNat (pattern : UInt32) : (pattern &&& 0x7FFFFFFF).toNat = pattern.toNat % 2 ^ 31 := by
  rw [UInt32.toNat_and]
  exact Nat.and_two_pow_sub_one_eq_mod _ 31

theorem roundShift_le (value shift : Nat) : roundShift value shift ≤ value / 2 ^ shift + 1 := by
  simp only [roundShift, Nat.pow_eq]
  split <;> omega

theorem roundShift_exact (value shift : Nat) : roundShift (value * 2 ^ shift) shift = value := by
  have positive := Nat.two_pow_pos shift
  simp only [roundShift, Nat.pow_eq, Nat.mul_div_cancel value positive, Nat.mul_mod_left]
  rw [if_neg]
  simp only [Bool.or_eq_true, Bool.and_eq_true, decide_eq_true_eq, beq_iff_eq]
  omega

namespace Half

/-- The magnitude in 32 bits that the exponent and the fraction of 16 bits stand for. -/
def widenMagnitude (exponent fraction : Nat) : Nat :=
  if exponent = 0 then
    if fraction = 0 then 0
    else (fraction.log2 + 103) * 0x800000 + (fraction - 2 ^ fraction.log2) * 2 ^ (23 - fraction.log2)
  else if exponent = 31 then
    if fraction = 0 then 0x7F800000 else 0x7FC00000 + fraction % 512 * 8192
  else (exponent + 112) * 0x800000 + fraction * 8192

/-- The magnitude of the nearest pattern in 16 bits, from the magnitude in 32 bits. -/
def narrowMagnitude (magnitude : Nat) : Nat :=
  if 0x7F800000 < magnitude then 0x7E00 + magnitude / 8192 % 512
  else if 0x477FF000 ≤ magnitude then 0x7C00
  else if magnitude < 0x38800000 then
    if magnitude / 0x800000 = 0 then roundShift (magnitude % 0x800000) 125
    else roundShift (magnitude % 0x800000 + 0x800000) (126 - magnitude / 0x800000)
  else
    let rebased := magnitude - 0x38000000
    (rebased + (rebased / 8192 % 2 + 0xFFF)) / 8192

/-- Narrowing gives a number, or a NaN that is quiet. -/
theorem narrowMagnitude_quiet (magnitude : Nat) :
    narrowMagnitude magnitude ≤ 0x7C00 ∨
      0x7E00 ≤ narrowMagnitude magnitude ∧ narrowMagnitude magnitude < 2 ^ 15 := by
  unfold narrowMagnitude
  split
  · omega
  · split
    · omega
    · split
      · rename_i small
        split
        · have nearest := roundShift_le (magnitude % 0x800000) 125
          omega
        · have nearest := roundShift_le (magnitude % 0x800000 + 0x800000) (126 - magnitude / 0x800000)
          -- Shifted by at least 14 places, a significand of 24 bits keeps ten of them.
          have shifted : (magnitude % 0x800000 + 0x800000) / 2 ^ (126 - magnitude / 0x800000) ≤
              (magnitude % 0x800000 + 0x800000) / 2 ^ 14 :=
            Nat.div_le_div_left (Nat.pow_le_pow_right (by decide) (by omega)) (by decide)
          omega
      · simp only
        omega

theorem narrowMagnitude_lt (magnitude : Nat) : narrowMagnitude magnitude < 2 ^ 15 := by
  have quiet := narrowMagnitude_quiet magnitude
  omega

/-- The sign of a pattern in 32 bits, where 16 bits have it. -/
theorem sign_toNat (pattern : UInt32) :
    ((pattern >>> 16).toUInt16 &&& 0x8000).toNat = pattern.toNat / 2 ^ 31 * 2 ^ 15 := by
  have upper : (pattern >>> 16).toUInt16.toNat = pattern.toNat / 2 ^ 16 := by
    have top := pattern.toNat_lt
    simp [Nat.shiftRight_eq_div_pow]
    omega
  have top : pattern.toNat / 2 ^ 16 < 2 ^ (15 + 1) := by
    have top := pattern.toNat_lt
    omega
  rw [UInt16.toNat_and, upper]
  refine (and_highest top).trans ?_
  rw [Nat.div_div_eq_div_mul]
  rfl

theorem nan_toNat {magnitude : UInt32} (nan : 0x7F800000 < magnitude.toNat) :
    ((0x7E00 : UInt16) ||| ((magnitude >>> 13).toUInt16 &&& 0x3FF)).toNat = narrowMagnitude magnitude.toNat := by
  have payload : ((magnitude >>> 13).toUInt16 &&& 0x3FF).toNat = magnitude.toNat / 8192 % 1024 := by
    rw [UInt16.toNat_and]
    refine (Nat.and_two_pow_sub_one_eq_mod _ 10).trans ?_
    simp [Nat.shiftRight_eq_div_pow]
  have small : magnitude.toNat / 8192 % 1024 < 2 ^ (9 + 1) := by omega
  rw [UInt16.toNat_or, payload, narrowMagnitude, if_pos nan]
  refine (or_eq_add_mod (show 63 % 2 = 1 by decide) small).trans ?_
  omega

theorem subnormal_toNat {magnitude : UInt32} (small : magnitude.toNat < 0x38800000) :
    (UInt16.ofNat (roundShift (subnormalUnits magnitude).1 (subnormalUnits magnitude).2)).toNat =
      narrowMagnitude magnitude.toNat := by
  have exponent : (magnitude >>> 23).toNat = magnitude.toNat / 0x800000 := by
    simp [Nat.shiftRight_eq_div_pow]
  have fraction : (magnitude &&& 0x7FFFFF).toNat = magnitude.toNat % 0x800000 := by
    rw [UInt32.toNat_and]
    exact Nat.and_two_pow_sub_one_eq_mod _ 23
  have same : roundShift (subnormalUnits magnitude).1 (subnormalUnits magnitude).2 =
      narrowMagnitude magnitude.toNat := by
    rw [narrowMagnitude, if_neg (by omega), if_neg (by omega), if_pos small]
    simp only [subnormalUnits, exponent, fraction]
    split
    · rfl
    · rfl
  have bound := narrowMagnitude_lt magnitude.toNat
  rw [same, UInt16.toNat_ofNat_of_lt' (Nat.lt_trans bound (by decide))]

theorem normal_toNat {magnitude : UInt32} (large : 0x38800000 ≤ magnitude.toNat)
    (finite : magnitude.toNat < 0x477FF000) :
    ((magnitude - (0x38000000 : UInt32) +
      (((magnitude - (0x38000000 : UInt32)) >>> 13 &&& 1) + (0xFFF : UInt32))) >>> 13).toUInt16.toNat =
        narrowMagnitude magnitude.toNat := by
  have rebased : (magnitude - 0x38000000).toNat = magnitude.toNat - 0x38000000 := by
    refine UInt32.toNat_sub_of_le _ _ ?_
    rw [UInt32.le_iff_toNat_le]
    exact Nat.le_trans (by decide) large
  rw [narrowMagnitude, if_neg (by omega), if_neg (by omega), if_neg (by omega), ← rebased]
  generalize magnitude - 0x38000000 = base at *
  have bit : (base >>> 13 &&& 1).toNat = base.toNat / 8192 % 2 := by
    rw [UInt32.toNat_and]
    refine (Nat.and_two_pow_sub_one_eq_mod _ 1).trans ?_
    simp [Nat.shiftRight_eq_div_pow]
  simp only [UInt32.toNat_toUInt16, UInt32.toNat_shiftRight, UInt32.toNat_add, bit]
  simp [Nat.shiftRight_eq_div_pow]
  omega

/-- Narrowing keeps the sign and works on the magnitude. -/
theorem narrow_toNat (pattern : UInt32) :
    (narrow pattern).bits.toNat = pattern.toNat / 2 ^ 31 * 2 ^ 15 + narrowMagnitude (pattern.toNat % 2 ^ 31) := by
  have bound := narrowMagnitude_lt (pattern.toNat % 2 ^ 31)
  rw [← or_eq_add _ bound, ← sign_toNat, ← magnitude_toNat]
  simp only [narrow, gt_iff_lt, UInt32.lt_iff_toNat_lt, ge_iff_le, UInt32.le_iff_toNat_le, UInt32.reduceToNat]
  split
  · rename_i nan
    rw [UInt16.or_assoc, UInt16.toNat_or, nan_toNat nan]
  · rename_i number
    split
    · rename_i huge
      rw [UInt16.toNat_or, narrowMagnitude, if_neg number, if_pos huge]
      rfl
    · rename_i finite
      split
      · rename_i small
        rw [UInt16.toNat_or, subnormal_toNat small]
      · rename_i large
        rw [UInt16.toNat_or, normal_toNat (Nat.not_lt.mp large) (Nat.not_le.mp finite)]

theorem subnormal_rest_lt {fraction : Nat} (some : fraction ≠ 0) (small : fraction < 1024) :
    fraction.log2 < 10 ∧ (fraction - 2 ^ fraction.log2) * 2 ^ (23 - fraction.log2) < 0x800000 := by
  have short : fraction.log2 < 10 := (Nat.log2_lt some).mpr small
  have rest : fraction - 2 ^ fraction.log2 < 2 ^ fraction.log2 := by
    have upper : fraction < 2 ^ (fraction.log2 + 1) := Nat.lt_log2_self
    rw [Nat.pow_succ] at upper
    omega
  refine ⟨short, ?_⟩
  calc (fraction - 2 ^ fraction.log2) * 2 ^ (23 - fraction.log2)
      < 2 ^ fraction.log2 * 2 ^ (23 - fraction.log2) := Nat.mul_lt_mul_of_pos_right rest (Nat.two_pow_pos _)
    _ = 2 ^ 23 := by rw [← Nat.pow_add, show fraction.log2 + (23 - fraction.log2) = 23 by omega]

theorem widenMagnitude_lt {exponent fraction : Nat} (low : exponent < 32) (small : fraction < 1024) :
    widenMagnitude exponent fraction < 2 ^ 31 := by
  unfold widenMagnitude
  split
  · split
    · decide
    · rename_i some
      have rest := subnormal_rest_lt some small
      omega
  · split
    · split
      · decide
      · omega
    · omega

/-- Widening keeps the sign and works on the magnitude. -/
theorem widen_toNat (half : Half) :
    half.widen.toNat = half.bits.toNat / 2 ^ 15 * 2 ^ 31 +
      widenMagnitude (half.bits.toNat / 1024 % 32) (half.bits.toNat % 1024) := by
  have signed : ((half.bits &&& 0x8000).toUInt32 <<< 16).toNat = half.bits.toNat / 2 ^ 15 * 2 ^ 31 := by
    have top := half.bits.toNat_lt
    have highest : (half.bits &&& 0x8000).toNat = half.bits.toNat / 2 ^ 15 * 2 ^ 15 := by
      rw [UInt16.toNat_and]
      exact and_highest top
    rw [UInt32.toNat_shiftLeft, UInt16.toNat_toUInt32, highest, Nat.shiftLeft_eq]
    simp
    omega
  have raised : ((half.bits >>> 10).toUInt32 &&& 0x1F).toNat = half.bits.toNat / 1024 % 32 := by
    rw [UInt32.toNat_and]
    refine (Nat.and_two_pow_sub_one_eq_mod _ 5).trans ?_
    simp [Nat.shiftRight_eq_div_pow]
  have lower : (half.bits.toUInt32 &&& 0x3FF).toNat = half.bits.toNat % 1024 := by
    rw [UInt32.toNat_and]
    refine (Nat.and_two_pow_sub_one_eq_mod _ 10).trans ?_
    simp
  have low : half.bits.toNat / 1024 % 32 < 32 := Nat.mod_lt _ (by decide)
  have small : half.bits.toNat % 1024 < 1024 := Nat.mod_lt _ (by decide)
  have bound := widenMagnitude_lt low small
  rw [← or_eq_add _ bound, ← signed]
  unfold widen
  rw [← raised] at *
  rw [← lower] at *
  generalize (half.bits &&& 0x8000).toUInt32 <<< 16 = sign
  generalize (half.bits >>> 10).toUInt32 &&& 0x1F = exponent at *
  generalize half.bits.toUInt32 &&& 0x3FF = fraction at *
  -- Zero and the subnormal numbers, then the infinity and the NaNs, then the normal numbers.
  simp only [← UInt32.toNat_inj, UInt32.reduceToNat, widenMagnitude] at *
  split
  · split
    · exact (Nat.or_zero _).symm
    · rename_i some
      have rest := subnormal_rest_lt some small
      rw [UInt32.toNat_or, UInt32.toNat_ofNat_of_lt']
      · rfl
      · show _ < 2 ^ 32
        simp only [Nat.pow_eq]
        omega
  · have shifted : (fraction <<< 13).toNat = fraction.toNat * 8192 := by
      simp [Nat.shiftLeft_eq]
      omega
    split
    · split
      · simp
      -- The exponent and the quiet bit are nine ones, of which the fraction may have the last one already.
      · have narrow : fraction.toNat * 8192 < 2 ^ (22 + 1) := by omega
        rw [UInt32.or_assoc, UInt32.toNat_or, UInt32.toNat_or, shifted]
        refine congrArg (sign.toNat ||| ·) ?_
        refine (or_eq_add_mod (show 511 % 2 = 1 by decide) narrow).trans ?_
        omega
    · have moved : ((exponent + 112) <<< 23).toNat = (exponent.toNat + 112) * 2 ^ 23 := by
        simp [Nat.shiftLeft_eq]
        omega
      have narrow : fraction.toNat * 8192 < 2 ^ 23 := by omega
      rw [UInt32.or_assoc, UInt32.toNat_or, UInt32.toNat_or, shifted, moved, or_eq_add _ narrow]
      rfl

theorem narrowMagnitude_widenMagnitude {exponent fraction : Nat} (low : exponent < 32) (small : fraction < 1024)
    (quiet : exponent = 31 → fraction = 0 ∨ 512 ≤ fraction) :
    narrowMagnitude (widenMagnitude exponent fraction) = exponent * 1024 + fraction := by
  unfold widenMagnitude
  split
  · rename_i zero
    split
    · rename_i nothing
      simp [zero, nothing, narrowMagnitude, roundShift]
    · rename_i some
      obtain ⟨short, rest⟩ := subnormal_rest_lt some small
      have exact : (fraction - 2 ^ fraction.log2) * 2 ^ (23 - fraction.log2) + 0x800000 =
          fraction * 2 ^ (23 - fraction.log2) := by
        have leading : 0x800000 = 2 ^ fraction.log2 * 2 ^ (23 - fraction.log2) := by
          rw [← Nat.pow_add, show fraction.log2 + (23 - fraction.log2) = 23 by omega]
        rw [leading, ← Nat.add_mul, Nat.sub_add_cancel (Nat.log2_self_le some)]
      generalize (fraction - 2 ^ fraction.log2) * 2 ^ (23 - fraction.log2) = tail at *
      rw [narrowMagnitude, if_neg (by omega), if_neg (by omega), if_pos (by omega), if_neg (by omega)]
      have first : ((fraction.log2 + 103) * 0x800000 + tail) % 0x800000 = tail := by omega
      have second : ((fraction.log2 + 103) * 0x800000 + tail) / 0x800000 = fraction.log2 + 103 := by omega
      rw [first, second, exact, show 126 - (fraction.log2 + 103) = 23 - fraction.log2 by omega, roundShift_exact]
      omega
  · split
    · rename_i top
      split
      · rename_i nothing
        subst top nothing
        decide
      · rename_i some
        have quiet := quiet top
        rw [narrowMagnitude, if_pos (by omega)]
        omega
    · rw [narrowMagnitude, if_neg (by omega), if_neg (by omega), if_neg (by omega)]
      simp only
      omega

/-- What was narrowed once is kept. -/
theorem narrow_widen_narrow (pattern : UInt32) : narrow (narrow pattern).widen = narrow pattern := by
  have given := narrow_toNat pattern
  have quiet := narrowMagnitude_quiet (pattern.toNat % 2 ^ 31)
  generalize narrow pattern = half at *
  generalize narrowMagnitude (pattern.toNat % 2 ^ 31) = magnitude at *
  have top := half.bits.toNat_lt
  have low : half.bits.toNat / 1024 % 32 < 32 := Nat.mod_lt _ (by decide)
  have small : half.bits.toNat % 1024 < 1024 := Nat.mod_lt _ (by decide)
  have bound := widenMagnitude_lt low small
  have kept := narrowMagnitude_widenMagnitude low small (by omega)
  have wide := half.widen_toNat
  generalize widenMagnitude (half.bits.toNat / 1024 % 32) (half.bits.toNat % 1024) = widened at *
  have back := narrow_toNat half.widen
  rw [show half.widen.toNat / 2 ^ 31 = half.bits.toNat / 2 ^ 15 by omega,
    show half.widen.toNat % 2 ^ 31 = widened by omega, kept] at back
  have same : (narrow half.widen).bits = half.bits := by
    rw [← UInt16.toNat_inj, back]
    omega
  exact congrArg Half.mk same

end Half

namespace Bfloat

/-- A pattern with the bit set that makes a NaN quiet. -/
theorem quieted (value : Nat) : value ||| 0x40 = value / 128 * 128 + 64 + value % 64 := by
  have upper : (value ||| 0x40) / 2 ^ 6 = value / 2 ^ 6 / 2 * 2 + 1 := by
    rw [Nat.or_div_two_pow]
    exact or_one _
  have lower : (value ||| 0x40) % 2 ^ 6 = value % 2 ^ 6 := by
    rw [Nat.or_mod_two_pow]
    exact Nat.or_zero _
  omega

theorem narrow_toNat (pattern : UInt32) :
    (narrow pattern).bits.toNat =
      if 0x7F800000 < pattern.toNat % 2 ^ 31 then
        pattern.toNat / 2 ^ 16 / 128 * 128 + 64 + pattern.toNat / 2 ^ 16 % 64
      else (pattern.toNat + (pattern.toNat / 2 ^ 16 % 2 + 0x7FFF)) / 2 ^ 16 := by
  have top := pattern.toNat_lt
  have upper : (pattern >>> 16).toNat = pattern.toNat / 2 ^ 16 := by
    simp [Nat.shiftRight_eq_div_pow]
  have bit : (pattern >>> 16 &&& 1).toNat = pattern.toNat / 2 ^ 16 % 2 := by
    rw [UInt32.toNat_and, upper]
    exact Nat.and_two_pow_sub_one_eq_mod _ 1
  simp only [narrow, gt_iff_lt, UInt32.lt_iff_toNat_lt, magnitude_toNat, UInt32.reduceToNat]
  split
  · rw [UInt32.toNat_toUInt16, UInt32.toNat_or, upper]
    refine (congrArg (· % 2 ^ 16) (quieted _)).trans ?_
    omega
  · rename_i number
    simp only [UInt32.toNat_toUInt16, UInt32.toNat_shiftRight, UInt32.toNat_add, bit]
    simp [Nat.shiftRight_eq_div_pow]
    omega

/-- Rounding up reaches the infinity at most, and never carries into the sign. -/
theorem rounded_le {pattern : Nat} (number : pattern % 2 ^ 31 ≤ 0x7F800000) :
    (pattern + (pattern / 2 ^ 16 % 2 + 0x7FFF)) / 2 ^ 16 % 2 ^ 15 ≤ 0x7F80 := by
  have parts := Nat.mod_mul (x := pattern) (a := 2 ^ 16) (b := 2 ^ 15)
  have whole := Nat.div_add_mod' pattern (2 ^ 16)
  have rest : pattern % 2 ^ 16 < 2 ^ 16 := Nat.mod_lt _ (by decide)
  generalize pattern / 2 ^ 16 = upper at *
  generalize pattern % 2 ^ 16 = lower at *
  have limited : upper % 2 ^ 15 ≤ 0x7F80 := by omega
  obtain kept | next : (pattern + (upper % 2 + 0x7FFF)) / 2 ^ 16 = upper ∨
      (pattern + (upper % 2 + 0x7FFF)) / 2 ^ 16 = upper + 1 := by omega
  · rw [kept]
    exact limited
  · have finite : upper % 2 ^ 15 < 0x7F80 := by omega
    rw [next]
    clear whole parts next
    omega

/-- What was narrowed once is kept. -/
theorem narrow_widen_narrow (pattern : UInt32) : narrow (narrow pattern).widen = narrow pattern := by
  have given := narrow_toNat pattern
  have top := pattern.toNat_lt
  generalize narrow pattern = bfloat at *
  have small := bfloat.bits.toNat_lt
  have wide : bfloat.widen.toNat = bfloat.bits.toNat * 2 ^ 16 := by
    simp [widen, Nat.shiftLeft_eq]
    omega
  have magnitude : bfloat.bits.toNat * 2 ^ 16 % 2 ^ 31 = bfloat.bits.toNat % 2 ^ 15 * 2 ^ 16 :=
    Nat.mul_mod_mul_right (2 ^ 16) bfloat.bits.toNat (2 ^ 15)
  have back := narrow_toNat bfloat.widen
  rw [wide, magnitude, Nat.mul_div_cancel _ (Nat.two_pow_pos 16)] at back
  have same : (narrow bfloat.widen).bits = bfloat.bits := by
    rw [← UInt16.toNat_inj, back]
    split at given
    · rw [if_pos (by omega)]
      omega
    · rename_i number
      have limited := rounded_le (Nat.not_lt.mp number)
      rw [← given] at limited
      rw [if_neg (by omega)]
      omega
  exact congrArg Bfloat.mk same

end Bfloat

end KernelForge
