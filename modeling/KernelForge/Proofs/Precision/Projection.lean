import KernelForge.Proofs.Precision.Narrowing
import KernelForge.Proofs.Single

/-!
A trip through a format, bit for bit. What has been through a format once is kept by it, and by every format that its
operand may have in registers. A NaN stays a NaN, whatever its sign and payload, and nothing else becomes one. A buffer
makes the trip value by value.
-/

namespace KernelForge

open Float.Model (UnpackedFloat)
open Binary (unpack_eq_notANumber_iff unpack_ne_notANumber_iff)

/-- Bits between two boundaries. -/
theorem and_shifted_ones (value width shift : Nat) :
    value &&& (2 ^ width - 1) * 2 ^ shift = value / 2 ^ shift % 2 ^ width * 2 ^ shift := by
  have positive := Nat.two_pow_pos shift
  have upper : (value &&& (2 ^ width - 1) * 2 ^ shift) / 2 ^ shift = value / 2 ^ shift % 2 ^ width := by
    rw [Nat.and_div_two_pow, Nat.mul_div_cancel _ positive, Nat.and_two_pow_sub_one_eq_mod]
  have lower : (value &&& (2 ^ width - 1) * 2 ^ shift) % 2 ^ shift = 0 := by
    rw [Nat.and_mod_two_pow, Nat.mul_mod_left, Nat.and_zero]
  rw [← Nat.div_add_mod' (value &&& (2 ^ width - 1) * 2 ^ shift) (2 ^ shift), upper, lower, Nat.add_zero]

/-- An exponent of ones with any fraction but zero is what lies beyond the infinity. -/
theorem beyond_infinity_iff (value exponent fraction : Nat) :
    value &&& (2 ^ exponent - 1) * 2 ^ fraction = (2 ^ exponent - 1) * 2 ^ fraction ∧ value &&& (2 ^ fraction - 1) ≠ 0 ↔
      (2 ^ exponent - 1) * 2 ^ fraction < value % 2 ^ (fraction + exponent) := by
  have positive := Nat.two_pow_pos fraction
  have upper := Nat.mod_lt (value / 2 ^ fraction) (Nat.two_pow_pos exponent)
  have lower := Nat.mod_lt value positive
  rw [and_shifted_ones, Nat.and_two_pow_sub_one_eq_mod, Nat.pow_add, Nat.mod_mul, Nat.mul_left_inj positive.ne',
    Nat.mul_comm (2 ^ fraction)]
  generalize value / 2 ^ fraction % 2 ^ exponent = high at *
  generalize value % 2 ^ fraction = low at *
  constructor
  · rintro ⟨rfl, some⟩
    omega
  · intro beyond
    have ones : high = 2 ^ exponent - 1 := by
      by_contra fewer
      have step : (high + 1) * 2 ^ fraction ≤ (2 ^ exponent - 1) * 2 ^ fraction :=
        Nat.mul_le_mul_right _ (by omega)
      rw [Nat.succ_mul] at step
      omega
    subst ones
    omega

/-- A pattern is a NaN from the magnitude above the infinity on. -/
theorem Single.parts_eq_notANumber_iff (pattern : UInt32) :
    Single.parts pattern = .notANumber ↔ 0x7F800000 < pattern.toNat % 2 ^ 31 :=
  unpack_eq_notANumber_iff

namespace Half

theorem parts_eq_notANumber_iff (half : Half) : half.parts = .notANumber ↔ 0x7C00 < half.bits.toNat % 2 ^ 15 :=
  unpack_eq_notANumber_iff

/-- The test of the bits finds what denotes no number. -/
theorem isNaN_iff (half : Half) : half.isNaN = true ↔ half.parts = .notANumber := by
  rw [parts_eq_notANumber_iff, isNaN, Bool.and_eq_true, beq_iff_eq, bne_iff_ne, ne_eq, ← UInt16.toNat_inj,
    ← UInt16.toNat_inj, UInt16.toNat_and, UInt16.toNat_and]
  exact beyond_infinity_iff half.bits.toNat 5 10

theorem isNaN_narrow_iff (pattern : UInt32) :
    (narrow pattern).isNaN = true ↔ Single.parts pattern = .notANumber := by
  have bound := narrowMagnitude_lt (pattern.toNat % 2 ^ 31)
  have narrowed : (narrow pattern).bits.toNat % 2 ^ 15 = narrowMagnitude (pattern.toNat % 2 ^ 31) := by
    rw [narrow_toNat]
    omega
  rw [isNaN_iff, parts_eq_notANumber_iff, Single.parts_eq_notANumber_iff, narrowed]
  constructor
  · intro large
    by_contra number
    exact absurd (narrowMagnitude_overflows (Nat.not_lt.mp number)).1 (Nat.not_le.mpr large)
  · intro nan
    rw [narrowMagnitude, if_pos nan]
    omega

theorem parts_widen_iff (half : Half) : Single.parts half.widen = .notANumber ↔ half.isNaN = true := by
  rw [isNaN_iff]
  constructor
  · intro nan
    by_contra number
    have same := (widen_same number).sign
    have signed := Binary.sign?_unpack (unpack_ne_notANumber_iff.mp number)
    rw [nan] at same
    exact absurd (same.symm.trans signed) (by simp [Binary.sign?])
  · intro nan
    rw [parts_eq_notANumber_iff] at nan
    have top := half.bits.toNat_lt
    have wide := half.widen_toNat
    have exponent : half.bits.toNat / 1024 % 32 = 31 := by omega
    have fraction : half.bits.toNat % 1024 ≠ 0 := by omega
    rw [exponent, widenMagnitude, if_neg (by decide), if_pos rfl, if_neg fraction] at wide
    rw [Single.parts_eq_notANumber_iff]
    omega

end Half

namespace Bfloat

theorem parts_eq_notANumber_iff (bfloat : Bfloat) :
    bfloat.parts = .notANumber ↔ 0x7F80 < bfloat.bits.toNat % 2 ^ 15 :=
  unpack_eq_notANumber_iff

/-- The test of the bits finds what denotes no number. -/
theorem isNaN_iff (bfloat : Bfloat) : bfloat.isNaN = true ↔ bfloat.parts = .notANumber := by
  rw [parts_eq_notANumber_iff, isNaN, Bool.and_eq_true, beq_iff_eq, bne_iff_ne, ne_eq, ← UInt16.toNat_inj,
    ← UInt16.toNat_inj, UInt16.toNat_and, UInt16.toNat_and]
  exact beyond_infinity_iff bfloat.bits.toNat 8 7

theorem isNaN_narrow_iff (pattern : UInt32) :
    (narrow pattern).isNaN = true ↔ Single.parts pattern = .notANumber := by
  rw [isNaN_iff, parts_eq_notANumber_iff, Single.parts_eq_notANumber_iff]
  constructor
  · intro large
    by_contra number
    obtain ⟨narrowed, converted, -⟩ := narrow_toNat_of_number (Nat.not_lt.mp number)
    omega
  · intro nan
    have narrowed := narrow_toNat pattern
    rw [if_pos nan] at narrowed
    omega

theorem parts_widen_iff (bfloat : Bfloat) : Single.parts bfloat.widen = .notANumber ↔ bfloat.isNaN = true := by
  rw [isNaN_iff, parts_eq_notANumber_iff, Single.parts_eq_notANumber_iff, widen_toNat]
  omega

end Bfloat

namespace Precision

/-- A trip makes no NaN and loses none. -/
theorem parts_roundBits_iff (precision : Precision) (pattern : UInt32) :
    Single.parts (precision.roundBits pattern) = .notANumber ↔ Single.parts pattern = .notANumber := by
  unfold roundBits
  split
  · rw [Half.parts_widen_iff, Half.isNaN_narrow_iff]
  · split
    · rw [Bfloat.parts_widen_iff, Bfloat.isNaN_narrow_iff]
    · rfl

/-- Registers hold an operand in its format in memory or in single precision, and neither changes what comes from
    there. -/
theorem roundBits_of_checkPair {memory register : Precision} (fits : checkPair memory register = .ok ())
    (pattern : UInt32) : register.roundBits (memory.roundBits pattern) = memory.roundBits pattern := by
  unfold checkPair at fits
  split at fits
  · cases fits
  · split at fits
    · cases fits
    · rename_i holdable
      rw [Bool.and_eq_true, decide_eq_true_eq, decide_eq_true_eq, not_and, not_not] at holdable
      by_cases same : register = memory
      · rw [same]
        exact roundBits_roundBits memory pattern
      · rw [holdable same]
        rfl

/-- A value makes the trip as any pattern of it does. -/
theorem round_ofBits (precision : Precision) (pattern : UInt32) :
    precision.round (.ofBits pattern) = .ofBits (precision.roundBits pattern) := by
  unfold round
  split
  · by_cases nan : Single.parts pattern = .notANumber
    · have rounded := (parts_roundBits_iff precision pattern).mpr nan
      rw [Single.parts_eq_notANumber_iff] at nan rounded
      rw [Single.toBits_ofBits_nan nan, roundBits_nan, ← Float32.toBits_inj, Single.toBits_ofBits_nan rounded]
      exact Single.toBits_ofBits_nan (by decide)
    · rw [Single.parts_eq_notANumber_iff, Nat.not_lt] at nan
      rw [Single.toBits_ofBits nan]
  · rename_i wide
    simp only [Bool.or_eq_true, decide_eq_true_eq, not_or] at wide
    rw [roundBits, if_neg wide.1, if_neg wide.2]

/-- A buffer makes the trip value by value. -/
theorem roundAll_eq_map (precision : Precision) (values : Array Float32) :
    precision.roundAll values = values.map precision.round := by
  unfold roundAll
  split
  · rename_i single
    subst single
    exact (Array.map_id values).symm
  · rfl

/-- The loop over a buffer, after some of its positions. -/
theorem foldl_modify_range {α : Type} (change : α → α) (values : Array α) (count : Nat) :
    (List.range count).foldl (fun buffer index => buffer.modify index change) values =
      values.mapIdx fun index value => if index < count then change value else value := by
  induction count with
  | zero => exact (Array.ext (by simp) fun index _ _ => by simp).symm
  | succ count step =>
    rw [List.range_succ, List.foldl_append, step, List.foldl_cons, List.foldl_nil]
    refine Array.ext (by simp) fun index _ _ => ?_
    rw [Array.getElem_modify, Array.getElem_mapIdx, Array.getElem_mapIdx]
    by_cases here : count = index
    · simp [here]
    · have position : index < count + 1 ↔ index < count := by omega
      simp only [here, position, if_false]

/-- A buffer of patterns makes the trip pattern by pattern. -/
theorem roundAllBits_eq_map (precision : Precision) (patterns : Array UInt32) :
    precision.roundAllBits patterns = patterns.map precision.roundBits := by
  unfold roundAllBits
  split
  · rename_i single
    subst single
    exact (Array.map_id patterns).symm
  · rw [foldl_modify_range]
    refine Array.ext (by simp) fun index inside _ => ?_
    have within : index < patterns.size := by simpa using inside
    simp [within]

/-- What a buffer holds after the trip are the values of the patterns after it. -/
theorem roundAll_ofBits (precision : Precision) (patterns : Array UInt32) :
    precision.roundAll (patterns.map Float32.ofBits) = (precision.roundAllBits patterns).map Float32.ofBits := by
  rw [roundAll_eq_map, roundAllBits_eq_map, Array.map_map, Array.map_map]
  exact Array.map_congr_left fun pattern _ => round_ofBits precision pattern

/-- A trip through a format is a bit-exact projection. A second trip through the format, or through one that the
    operand may have in registers, changes no bit. NaNs, and only they, become NaNs, and a buffer makes the trip pattern
    by pattern; the trips of values are those of their patterns. -/
theorem roundBits_projection :
    (∀ (precision : Precision) (pattern : UInt32),
      precision.roundBits (precision.roundBits pattern) = precision.roundBits pattern) ∧
    (∀ memory register : Precision, checkPair memory register = .ok () → ∀ pattern : UInt32,
      register.roundBits (memory.roundBits pattern) = memory.roundBits pattern) ∧
    (∀ pattern : UInt32,
      ((Half.narrow pattern).isNaN = true ↔ Single.parts pattern = .notANumber) ∧
      ((Bfloat.narrow pattern).isNaN = true ↔ Single.parts pattern = .notANumber) ∧
      ∀ precision : Precision,
        Single.parts (precision.roundBits pattern) = .notANumber ↔ Single.parts pattern = .notANumber) ∧
    (∀ (precision : Precision) (patterns : Array UInt32),
      precision.roundAllBits patterns = patterns.map precision.roundBits ∧
      precision.roundAll (patterns.map Float32.ofBits) = (precision.roundAllBits patterns).map Float32.ofBits) ∧
    (∀ (precision : Precision) (pattern : UInt32),
      precision.round (.ofBits pattern) = .ofBits (precision.roundBits pattern)) ∧
    ∀ (precision : Precision) (values : Array Float32), precision.roundAll values = values.map precision.round :=
  ⟨roundBits_roundBits, fun _ _ fits => roundBits_of_checkPair fits,
    fun pattern => ⟨Half.isNaN_narrow_iff pattern, Bfloat.isNaN_narrow_iff pattern,
      fun precision => parts_roundBits_iff precision pattern⟩,
    fun precision patterns => ⟨roundAllBits_eq_map precision patterns, roundAll_ofBits precision patterns⟩,
    round_ofBits, roundAll_eq_map⟩

/-- A negative signalling NaN is quieted on its way to memory, and stays as it is in the registers. -/
theorem roundBits_projection_signalling :
    checkPair .bf16 .bf16 = .ok () ∧ Precision.bf16.roundBits 0xFF800001 = 0xFFC00000 ∧
      Precision.bf16.roundBits (Precision.bf16.roundBits 0xFF800001) = 0xFFC00000 := by
  obtain ⟨-, registers, -⟩ := roundBits_projection
  have fits : checkPair .bf16 .bf16 = .ok () := rfl
  exact ⟨fits, rfl, registers .bf16 .bf16 fits 0xFF800001⟩

end Precision

end KernelForge
