import KernelForge.Proofs.Precision.Denotation

/-!
Narrowing is correctly rounded. In units of the least subnormal number in 32 bits, all numbers involved are natural
numbers, and those of a 16 bit format are a grid among them: rounding a magnitude at a bit finds the closest point of
the grid, because between two points of the grid a magnitude grows evenly. The subnormal range of the format with few
exponent bits is a grid of its own, where the units are equally far apart. A sign carries over: a number of the other
sign is never closer than zero.
-/

namespace KernelForge

theorem roundShift_cases (value shift : Nat) :
    roundShift value shift = value / 2 ^ shift ∧
        (2 * (value % 2 ^ shift) < 2 ^ shift ∨
          2 * (value % 2 ^ shift) = 2 ^ shift ∧ value / 2 ^ shift % 2 = 0) ∨
      roundShift value shift = value / 2 ^ shift + 1 ∧
        (2 ^ shift < 2 * (value % 2 ^ shift) ∨
          2 * (value % 2 ^ shift) = 2 ^ shift ∧ value / 2 ^ shift % 2 = 1) := by
  simp only [roundShift, Nat.pow_eq, Bool.or_eq_true, Bool.and_eq_true, decide_eq_true_eq, beq_iff_eq]
  split <;> omega

/-- A factor that is a power of two moves the bit at which a value is rounded. -/
theorem roundShift_mul_two_pow (value shift more : Nat) :
    roundShift (value * 2 ^ more) (shift + more) = roundShift value shift := by
  have positive := Nat.two_pow_pos more
  have doubled : 2 * (value % 2 ^ shift * 2 ^ more) = 2 * (value % 2 ^ shift) * 2 ^ more := (Nat.mul_assoc ..).symm
  simp only [roundShift, Nat.pow_eq, Nat.pow_add, Nat.mul_div_mul_right _ _ positive, Nat.mul_mod_mul_right, doubled,
    Nat.mul_lt_mul_right positive, Nat.mul_left_inj positive.ne', Bool.or_eq_true, Bool.and_eq_true,
    decide_eq_true_eq, beq_iff_eq]

namespace Binary

open Float.Model (UnpackedFloat)
open Float.Model.UnpackedFloat (Sign unpack)

/-! ### Closest points of a grid -/

/-- No point of a grid is closer to a value, and in a tie the index is even. -/
def Closest (grid : Nat → Nat) (value index : Nat) : Prop :=
  ∀ other, Nat.dist value (grid index) ≤ Nat.dist value (grid other) ∧
    (grid other ≠ grid index → Nat.dist value (grid index) = Nat.dist value (grid other) → index % 2 = 0)

/-- A value between two neighbours of a grid belongs to the lower one in the first half of the gap, and to the upper one
    in the second. -/
theorem closest_of_gap {grid : Nat → Nat} (mono : StrictMono grid) {value lower gap index result : Nat}
    (reached : value = grid index + lower) (next : grid (index + 1) = grid index + gap) (within : lower ≤ gap)
    (chosen : result = index ∧ (2 * lower < gap ∨ 2 * lower = gap ∧ index % 2 = 0) ∨
      result = index + 1 ∧ (gap < 2 * lower ∨ 2 * lower = gap ∧ index % 2 = 1)) :
    Closest grid value result := by
  intro other
  unfold Nat.dist
  have side : grid other ≤ grid index ∨ grid (index + 1) ≤ grid other := by
    rcases Nat.lt_or_ge index other with above | below
    · exact .inr (mono.monotone above)
    · exact .inl (mono.monotone below)
  rcases chosen with ⟨rfl, near⟩ | ⟨rfl, near⟩
  · omega
  · omega

theorem Closest.mul {grid : Nat → Nat} {value index factor : Nat} (closest : Closest grid value index)
    (positive : 0 < factor) : Closest (fun other => grid other * factor) (value * factor) index := by
  intro other
  obtain ⟨least, tie⟩ := closest other
  simp only [Nat.dist_mul_right]
  refine ⟨Nat.mul_le_mul_right _ least, fun different equal => ?_⟩
  exact tie (fun same => different (by rw [same])) (Nat.eq_of_mul_eq_mul_right positive equal)

/-- Rounding a magnitude at a bit finds the closest number with the shorter fraction. -/
theorem closest_roundShift (width shift magnitude : Nat) :
    Closest (fun other => units width other * 2 ^ shift) (units (width + shift) magnitude)
      (roundShift magnitude shift) := by
  have positive := Nat.two_pow_pos shift
  have rest := Nat.mod_lt magnitude positive
  have split := Nat.div_add_mod' magnitude (2 ^ shift)
  have rounded := roundShift_cases magnitude shift
  generalize roundShift magnitude shift = result at *
  generalize magnitude / 2 ^ shift = index at *
  generalize magnitude % 2 ^ shift = lower at *
  have below : index % 2 ^ width + 1 ≤ 2 ^ width := Nat.mod_lt index (Nat.two_pow_pos width)
  have room : index * 2 ^ shift % 2 ^ (width + shift) + 2 ^ shift ≤ 2 ^ (width + shift) := by
    rw [Nat.pow_add, Nat.mul_mod_mul_right, ← Nat.succ_mul]
    exact Nat.mul_le_mul_right _ below
  have grows : ∀ more ≤ 2 ^ shift, units (width + shift) (index * 2 ^ shift + more) =
      units width index * 2 ^ shift + more * 2 ^ (index / 2 ^ width - 1) := by
    intro more within
    rw [units_add (by omega), units_mul_two_pow, Nat.pow_add, Nat.mul_div_mul_right _ _ positive]
  have apart := Nat.two_pow_pos (index / 2 ^ width - 1)
  have mono : StrictMono fun other => units width other * 2 ^ shift := (units_strictMono width).mul_const positive
  refine @closest_of_gap _ mono _ (lower * 2 ^ (index / 2 ^ width - 1)) (2 ^ shift * 2 ^ (index / 2 ^ width - 1))
    index result ?_ ?_ ?_ ?_
  · rw [← split, grows lower rest.le]
  · rw [units_add below, Nat.one_mul, Nat.add_mul, Nat.mul_comm (2 ^ shift)]
  · exact Nat.mul_le_mul_right _ rest.le
  · simpa only [← Nat.mul_assoc, Nat.mul_lt_mul_right apart, Nat.mul_left_inj apart.ne'] using rounded

/-- Among the subnormal numbers, and to the least normal one, rounding to a unit finds the closest. -/
theorem closest_subnormal {width shift value : Nat} (small : value / 2 ^ shift < 2 ^ width) :
    Closest (fun other => units width other * 2 ^ shift) value (roundShift value shift) := by
  have positive := Nat.two_pow_pos shift
  have rest := Nat.mod_lt value positive
  have next : units width (value / 2 ^ shift + 1) = value / 2 ^ shift + 1 := by
    rw [units_add (by rwa [Nat.mod_eq_of_lt small]), units_of_lt small, Nat.div_eq_of_lt small, Nat.one_mul,
      Nat.pow_zero]
  have mono : StrictMono fun other => units width other * 2 ^ shift := (units_strictMono width).mul_const positive
  refine @closest_of_gap _ mono _ (value % 2 ^ shift) (2 ^ shift) (value / 2 ^ shift) _ ?_ ?_ rest.le
    (roundShift_cases value shift)
  · rw [units_of_lt small, Nat.div_add_mod']
  · rw [next, units_of_lt small, Nat.succ_mul]

/-! ### Numbers with a sign -/

theorem cast_dist (first second : Nat) : (Nat.dist first second : ℚ) = |(first : ℚ) - second| := by
  rcases Nat.le_total first second with below | above
  · rw [Nat.dist_eq_sub_of_le below, Nat.cast_sub below, abs_sub_comm, abs_of_nonneg]
    exact sub_nonneg.mpr (Nat.cast_le.mpr below)
  · rw [Nat.dist_eq_sub_of_le_right above, Nat.cast_sub above, abs_of_nonneg]
    exact sub_nonneg.mpr (Nat.cast_le.mpr above)

theorem abs_signed {sign : Sign} {size : ℚ} (positive : 0 ≤ size) : |signed sign size| = size := by
  cases sign
  · exact (abs_neg size).trans (abs_of_nonneg positive)
  · exact abs_of_nonneg positive

theorem abs_signed_sub_signed (sign : Sign) (first second : ℚ) :
    |signed sign first - signed sign second| = |first - second| := by
  cases sign
  · exact (abs_sub_comm _ _).trans (by simp only [signed, sub_neg_eq_add, neg_add_eq_sub])
  · rfl

/-- Numbers of different signs are as far apart as zero is from both. -/
theorem abs_signed_sub_signed_of_ne {sign other : Sign} (different : sign ≠ other) {first second : ℚ}
    (positive : 0 ≤ first) (positive' : 0 ≤ second) :
    |signed sign first - signed other second| = first + second := by
  cases sign <;> cases other
  · exact absurd rfl different
  · rw [signed, signed, ← neg_add', abs_neg, abs_of_nonneg (add_nonneg positive positive')]
  · rw [signed, signed, sub_neg_eq_add, abs_of_nonneg (add_nonneg positive positive')]
  · exact absurd rfl different

/-- The closest point of a grid through zero, among the points of both signs. -/
theorem Closest.with_signs {grid : Nat → Nat} {value index : Nat} (closest : Closest grid value index)
    (zero : grid 0 = 0) {unit : ℚ} (positive : 0 < unit) (sign other : Sign) (candidate : Nat) :
    |signed sign (value * unit) - signed sign (grid index * unit)| ≤
        |signed sign (value * unit) - signed other (grid candidate * unit)| ∧
      (signed other (grid candidate * unit) ≠ signed sign (grid index * unit) →
        |signed sign (value * unit) - signed sign (grid index * unit)| =
          |signed sign (value * unit) - signed other (grid candidate * unit)| → index % 2 = 0) := by
  have size : ∀ count : Nat, 0 ≤ (count : ℚ) * unit := fun count => mul_nonneg (Nat.cast_nonneg count) positive.le
  have distance : ∀ point : Nat, |signed sign (value * unit) - signed sign (point * unit)| =
      Nat.dist value point * unit := by
    intro point
    rw [abs_signed_sub_signed, ← sub_mul, abs_mul, abs_of_pos positive, cast_dist]
  rw [distance]
  by_cases same : sign = other
  · subst same
    obtain ⟨least, tie⟩ := closest candidate
    rw [distance, mul_le_mul_iff_of_pos_right positive, Nat.cast_le, mul_left_inj' positive.ne', Nat.cast_inj]
    exact ⟨least, fun different => tie fun equal => different (by rw [equal])⟩
  · obtain ⟨least, tie⟩ := closest 0
    have apart : |signed sign (value * unit) - signed other (grid candidate * unit)| =
        (value + grid candidate : Nat) * unit := by
      rw [abs_signed_sub_signed_of_ne same (size _) (size _), Nat.cast_add, add_mul]
    rw [zero, Nat.dist_zero_right] at least tie
    rw [apart, mul_le_mul_iff_of_pos_right positive, Nat.cast_le, mul_left_inj' positive.ne', Nat.cast_inj]
    refine ⟨Nat.le_trans least (Nat.le_add_right _ _), fun different equal => ?_⟩
    -- A tie is with the zero of the other sign.
    have none : grid candidate = 0 := by omega
    refine tie (fun isZero => different ?_) (by omega)
    rw [none, ← isZero, Nat.cast_zero, zero_mul]
    cases sign <;> cases other <;> simp [signed]

variable {wide format : Float.Model.Format} {shift : Nat} {given : BitVec wide.numBits} {found : BitVec format.numBits}

/-- What the closest point of the grid says about the numbers. -/
theorem roundsTo_of_closest {limit : Nat} (finer : unit format = 2 ^ shift * unit wide)
    (number : magnitude given ≤ infinite wide) (converted : magnitude found ≤ infinite format)
    (sign : signOf found = signOf given) (bound : limit < infinite wide)
    (overflows : magnitude found = infinite format ↔ limit ≤ magnitude given)
    (closest : magnitude given < limit →
      Closest (fun other => units format.mantissaBitsWithoutImplicit other * 2 ^ shift)
        (units wide.mantissaBitsWithoutImplicit (magnitude given)) (magnitude found)) :
    RoundsTo format (units wide.mantissaBitsWithoutImplicit limit * unit wide) (unpack wide given)
      (unpack format found) where
  sign := ⟨signOf given, sign?_unpack number, sign ▸ sign?_unpack converted⟩
  infinite := by
    have positive := unit_pos wide
    rw [isInf_unpack_iff, isInf_unpack_iff, overflows]
    constructor
    · intro large
      rcases Nat.lt_or_eq_of_le number with finite | infinity
      · refine .inr ⟨_, number?_unpack finite, ?_⟩
        rw [abs_signed (mul_nonneg (Nat.cast_nonneg _) positive.le), mul_le_mul_iff_of_pos_right positive, Nat.cast_le]
        exact (units_strictMono _).monotone large
      · exact .inl infinity
    · rintro (infinity | ⟨value, valued, large⟩)
      · exact infinity ▸ bound.le
      · obtain ⟨-, rfl⟩ := eq_of_number?_unpack valued
        rw [abs_signed (mul_nonneg (Nat.cast_nonneg _) positive.le), mul_le_mul_iff_of_pos_right positive,
          Nat.cast_le] at large
        exact (units_strictMono _).le_iff_le.mp large
  nearest := by
    intro value result valued resulted bits other denoted
    obtain ⟨-, rfl⟩ := eq_of_number?_unpack valued
    obtain ⟨finite, rfl⟩ := eq_of_number?_unpack resulted
    obtain ⟨-, rfl⟩ := eq_of_number?_unpack denoted
    have small : magnitude given < limit := Nat.lt_of_not_le fun large => finite.ne (overflows.mpr large)
    -- Both grids are counted in units of the wide format, where the distances are whole.
    have scaled : ∀ count : Nat, (count : ℚ) * unit format = (count * 2 ^ shift : Nat) * unit wide := by
      intro count
      rw [finer, Nat.cast_mul, Nat.cast_pow, Nat.cast_ofNat, mul_assoc]
    rw [sign, significand_unpack finite, scaled, scaled]
    refine (closest small).with_signs ?_ (unit_pos wide) _ _ _
    rw [units_of_lt (Nat.two_pow_pos _), Nat.zero_mul]

end Binary

end KernelForge
