import Mathlib
import KernelForge.Proofs.Half

/-!
What bit patterns denote. A pattern of a format has a sign and a magnitude. Magnitudes in their order are the numbers in
theirs: from one to the next it is one unit of the last place, through the subnormal numbers, across the powers of two
and up to the infinity. `units` counts a magnitude in units of the least subnormal number, so numbers of one format are
natural numbers, and numbers of two formats differ in how much a unit is.
-/

namespace KernelForge.Binary

open Float.Model (UnpackedFloat)
open Float.Model.UnpackedFloat (Sign unpack unpackExponent unpackMantissa unpackSign unpackExponent_def
  unpackMantissa_def unpackSign_def)

/-! ### What is denoted -/

/-- The sign of what a pattern denotes. What is no number has none. -/
def sign? : UnpackedFloat → Option Sign
  | .notANumber => none
  | .infinity sign | .zero sign | .finite sign .. => some sign

/-- A sign and a size make a number. -/
def signed (sign : Sign) (size : ℚ) : ℚ :=
  match sign with
  | .positive => size
  | .negative => -size

/-- The number that a pattern denotes, unless it is infinite or no number at all. -/
def number? : UnpackedFloat → Option ℚ
  | .notANumber | .infinity _ => none
  | .zero _ => some 0
  | .finite sign significand exponent _ => some (signed sign (significand * 2 ^ exponent))

/-- The significand of a number, with its leading bit. -/
def significand : UnpackedFloat → Nat
  | .finite _ significand .. => significand
  | _ => 0

/-- Two patterns denote the same, the sign of a zero and of an infinity included. -/
structure Same (first second : UnpackedFloat) : Prop where
  sign : sign? first = sign? second
  infinite : first.isInf = second.isInf
  number : number? first = number? second

/-- A number as the nearest one of a format. A NaN has no sign, so there is none here. -/
structure RoundsTo (format : Float.Model.Format) (limit : ℚ) (given found : UnpackedFloat) : Prop where
  /-- The sign is kept, also that of a zero. -/
  sign : ∃ sign, sign? given = some sign ∧ sign? found = some sign
  /-- The result is infinite for the infinity and from the limit on. -/
  infinite : found.isInf = true ↔ given.isInf = true ∨ ∃ value, number? given = some value ∧ limit ≤ |value|
  /-- No number of the format is closer, and one that is as close leaves the even significand. -/
  nearest : ∀ value result, number? given = some value → number? found = some result →
    ∀ (bits : BitVec format.numBits) other, number? (unpack format bits) = some other →
      |value - result| ≤ |value - other| ∧
        (other ≠ result → |value - result| = |value - other| → significand found % 2 = 0)

/-! ### Units of the least subnormal number -/

/-- A magnitude with a fraction of `width` bits, in units of the least subnormal number. -/
def units (width magnitude : Nat) : Nat :=
  if magnitude / 2 ^ width = 0 then magnitude
  else (2 ^ width + magnitude % 2 ^ width) * 2 ^ (magnitude / 2 ^ width - 1)

theorem units_of_lt {width magnitude : Nat} (subnormal : magnitude < 2 ^ width) : units width magnitude = magnitude :=
  if_pos (Nat.div_eq_of_lt subnormal)

theorem units_of_parts {width exponent fraction : Nat} (normal : exponent ≠ 0) (below : fraction < 2 ^ width) :
    units width (exponent * 2 ^ width + fraction) = (2 ^ width + fraction) * 2 ^ (exponent - 1) := by
  have quotient : (exponent * 2 ^ width + fraction) / 2 ^ width = exponent := by
    rw [Nat.mul_comm, Nat.mul_add_div (Nat.two_pow_pos width), Nat.div_eq_of_lt below, Nat.add_zero]
  have rest : (exponent * 2 ^ width + fraction) % 2 ^ width = fraction := by
    rw [Nat.mul_comm, Nat.mul_add_mod, Nat.mod_eq_of_lt below]
  rw [units, quotient, rest, if_neg normal]

/-- Up to the next power of two, and to that power itself, the numbers are equally far apart. -/
theorem units_add {width magnitude more : Nat} (within : magnitude % 2 ^ width + more ≤ 2 ^ width) :
    units width (magnitude + more) = units width magnitude + more * 2 ^ (magnitude / 2 ^ width - 1) := by
  have positive := Nat.two_pow_pos width
  have split := Nat.div_add_mod' magnitude (2 ^ width)
  have below := Nat.mod_lt magnitude positive
  generalize magnitude / 2 ^ width = exponent at *
  generalize magnitude % 2 ^ width = fraction at *
  subst split
  rcases Nat.eq_zero_or_pos exponent with rfl | normal
  · rcases Nat.lt_or_eq_of_le within with inside | next
    · rw [Nat.zero_mul, Nat.zero_add, units_of_lt inside, units_of_lt below, Nat.pow_zero, Nat.mul_one]
    · have power : 0 * 2 ^ width + fraction + more = 1 * 2 ^ width + 0 := by omega
      rw [power, units_of_parts Nat.one_ne_zero positive, Nat.zero_mul, Nat.zero_add, units_of_lt below, Nat.pow_zero,
        Nat.mul_one, Nat.mul_one, next, Nat.add_zero]
  · rcases Nat.lt_or_eq_of_le within with inside | next
    · rw [Nat.add_assoc, units_of_parts normal.ne' inside, units_of_parts normal.ne' below]
      ring
    · obtain ⟨lower, rfl⟩ : ∃ lower, exponent = lower + 1 := ⟨exponent - 1, by omega⟩
      have power : (lower + 1) * 2 ^ width + fraction + more = (lower + 2) * 2 ^ width + 0 := by
        rw [Nat.add_assoc, next]
        ring
      rw [power, units_of_parts (by omega) positive, units_of_parts (by omega) below]
      calc (2 ^ width + 0) * 2 ^ (lower + 2 - 1) = (2 ^ width + 2 ^ width) * 2 ^ lower := by
            rw [show lower + 2 - 1 = lower + 1 by omega]
            ring
        _ = (2 ^ width + fraction) * 2 ^ lower + more * 2 ^ lower := by
            rw [← Nat.add_mul, Nat.add_assoc, next]

theorem units_strictMono (width : Nat) : StrictMono (units width) := by
  refine strictMono_nat_of_lt_succ fun magnitude => ?_
  rw [units_add (Nat.mod_lt magnitude (Nat.two_pow_pos width)), Nat.one_mul]
  exact Nat.lt_add_of_pos_right (Nat.two_pow_pos _)

/-- A longer fraction that ends in zeros is the same number. -/
theorem units_mul_two_pow (width more magnitude : Nat) :
    units (width + more) (magnitude * 2 ^ more) = units width magnitude * 2 ^ more := by
  have positive := Nat.two_pow_pos more
  unfold units
  rw [Nat.pow_add, Nat.mul_div_mul_right _ _ positive, Nat.mul_mod_mul_right]
  split
  · rfl
  · ring

/-- A greater exponent multiplies a normal number by a power of two. -/
theorem units_add_exponent {width magnitude : Nat} (more : Nat) (normal : 2 ^ width ≤ magnitude) :
    units width (magnitude + more * 2 ^ width) = units width magnitude * 2 ^ more := by
  have positive := Nat.two_pow_pos width
  have some := Nat.div_pos normal positive
  unfold units
  rw [Nat.add_mul_div_right _ _ positive, Nat.add_mul_mod_self_right, if_neg (by omega), if_neg (by omega),
    show magnitude / 2 ^ width + more - 1 = magnitude / 2 ^ width - 1 + more by omega, Nat.pow_add, Nat.mul_assoc]

/-! ### Signs and magnitudes -/

variable {format : Float.Model.Format}

/-- A pattern without its sign. -/
def magnitude (bits : BitVec format.numBits) : Nat :=
  bits.toNat % 2 ^ (format.exponentBits + format.mantissaBitsWithoutImplicit)

/-- The first bit of a pattern. -/
def signOf (bits : BitVec format.numBits) : Sign :=
  if bits.toNat < 2 ^ (format.exponentBits + format.mantissaBitsWithoutImplicit) then .positive else .negative

/-- The magnitude of the infinity: all exponent bits. -/
def infinite (format : Float.Model.Format) : Nat :=
  (2 ^ format.exponentBits - 1) * 2 ^ format.mantissaBitsWithoutImplicit

/-- The least subnormal number of a format. -/
def unit (format : Float.Model.Format) : ℚ :=
  2 ^ (1 - (format.exponentBias + format.mantissaBitsWithoutImplicit : ℤ))

theorem unit_pos (format : Float.Model.Format) : 0 < unit format := by
  unfold unit
  positivity

theorem exponent_toNat (bits : BitVec format.numBits) :
    (unpackExponent bits).toNat = magnitude bits / 2 ^ format.mantissaBitsWithoutImplicit := by
  rw [unpackExponent_def, BitVec.extractLsb'_toNat, Nat.shiftRight_eq_div_pow, magnitude,
    Nat.add_comm format.exponentBits, Nat.pow_add, Nat.mod_mul_right_div_self]

theorem fraction_toNat (bits : BitVec format.numBits) :
    (unpackMantissa bits).toNat = magnitude bits % 2 ^ format.mantissaBitsWithoutImplicit := by
  rw [unpackMantissa_def, BitVec.extractLsb'_toNat, Nat.shiftRight_zero, magnitude,
    Nat.mod_mod_of_dvd _ (Nat.pow_dvd_pow 2 (Nat.le_add_left _ _))]

theorem signOf_eq (bits : BitVec format.numBits) : Sign.ofBitVec (unpackSign bits) = signOf bits := by
  have top := bits.isLt
  have bit : (unpackSign bits).toNat =
      bits.toNat / 2 ^ (format.exponentBits + format.mantissaBitsWithoutImplicit) % 2 := by
    rw [unpackSign_def, BitVec.extractLsb'_toNat, Nat.shiftRight_eq_div_pow, Nat.pow_one,
      Nat.add_comm format.exponentBits]
  have small : bits.toNat / 2 ^ (format.exponentBits + format.mantissaBitsWithoutImplicit) < 2 := by
    rw [Nat.div_lt_iff_lt_mul (Nat.two_pow_pos _), Nat.mul_comm, ← Nat.pow_succ]
    exact Nat.lt_of_lt_of_eq top (congrArg (2 ^ ·) (by rw [Float.Model.Format.numBits, Nat.add_assoc, Nat.add_comm]))
  unfold Sign.ofBitVec signOf
  refine if_congr ?_ rfl rfl
  rw [← BitVec.toNat_inj, bit, Nat.mod_eq_of_lt small]
  exact Nat.div_eq_zero_iff_lt (Nat.two_pow_pos _)

/-- What the exponent bits say about the magnitude. -/
theorem exponent_lt_iff (bits : BitVec format.numBits) :
    magnitude bits / 2 ^ format.mantissaBitsWithoutImplicit < 2 ^ format.exponentBits - 1 ↔
      magnitude bits < infinite format :=
  Nat.div_lt_iff_lt_mul (Nat.two_pow_pos _)

theorem exponent_eq_ones_iff (bits : BitVec format.numBits) :
    unpackExponent bits = -1#_ ↔ infinite format ≤ magnitude bits := by
  have below : magnitude bits / 2 ^ format.mantissaBitsWithoutImplicit < 2 ^ format.exponentBits := by
    rw [← exponent_toNat]
    exact (unpackExponent bits).isLt
  have finite := exponent_lt_iff bits
  rw [← BitVec.toNat_inj, exponent_toNat, BitVec.neg_one_eq_allOnes, BitVec.toNat_allOnes]
  omega

/-- The magnitudes from that of the infinity on. -/
theorem unpack_of_infinite_le {bits : BitVec format.numBits} (large : infinite format ≤ magnitude bits) :
    unpack format bits = if magnitude bits = infinite format then .infinity (signOf bits) else .notANumber := by
  have fraction : unpackMantissa bits = 0#_ ↔ magnitude bits = infinite format := by
    have split := Nat.div_add_mod' (magnitude bits) (2 ^ format.mantissaBitsWithoutImplicit)
    have ones := (exponent_eq_ones_iff bits).mpr large
    rw [← BitVec.toNat_inj, exponent_toNat, BitVec.neg_one_eq_allOnes, BitVec.toNat_allOnes] at ones
    rw [← BitVec.toNat_inj, fraction_toNat, BitVec.toNat_zero]
    rw [ones] at split
    unfold infinite
    omega
  unfold unpack
  rw [if_pos ((exponent_eq_ones_iff bits).mpr large), signOf_eq]
  exact if_congr fraction rfl rfl

/-- Below the infinity a pattern is a zero, or a number whose significand is even with the magnitude. -/
theorem unpack_of_lt_infinite {bits : BitVec format.numBits} (finite : magnitude bits < infinite format) :
    (magnitude bits = 0 ∧ unpack format bits = .zero (signOf bits)) ∨
      ∃ significand exponent positive, unpack format bits = .finite (signOf bits) significand exponent positive ∧
        significand % 2 = magnitude bits % 2 ∧
        (significand : ℚ) * 2 ^ exponent = units format.mantissaBitsWithoutImplicit (magnitude bits) * unit format := by
  have ones : ¬ unpackExponent bits = -1#_ := fun ones => Nat.not_le.mpr finite ((exponent_eq_ones_iff bits).mp ones)
  have split := Nat.div_add_mod' (magnitude bits) (2 ^ format.mantissaBitsWithoutImplicit)
  have below := Nat.mod_lt (magnitude bits) (Nat.two_pow_pos format.mantissaBitsWithoutImplicit)
  have even : 2 ∣ 2 ^ format.mantissaBitsWithoutImplicit := dvd_pow_self 2 format.hm.ne'
  have parity : magnitude bits % 2 ^ format.mantissaBitsWithoutImplicit % 2 = magnitude bits % 2 :=
    Nat.mod_mod_of_dvd _ even
  have isZero : unpackExponent bits = 0#_ ↔ magnitude bits / 2 ^ format.mantissaBitsWithoutImplicit = 0 := by
    rw [← BitVec.toNat_inj, exponent_toNat, BitVec.toNat_zero]
  have noFraction : unpackMantissa bits = 0#_ ↔ magnitude bits % 2 ^ format.mantissaBitsWithoutImplicit = 0 := by
    rw [← BitVec.toNat_inj, fraction_toNat, BitVec.toNat_zero]
  unfold unpack
  simp only [ones, if_false, signOf_eq]
  -- The fraction of a subnormal number counts its units; that of a normal one has a leading one in front of it.
  by_cases subnormal : unpackExponent bits = 0#_
  · have small := isZero.mp subnormal
    rw [if_pos subnormal]
    by_cases zero : unpackMantissa bits = 0#_
    · rw [dif_pos zero]
      have none := noFraction.mp zero
      exact .inl ⟨by rw [← split, small, none, Nat.zero_mul], rfl⟩
    · rw [dif_neg zero]
      have positive : 0 < (unpackMantissa bits).toNat := by
        rw [fraction_toNat]
        exact Nat.pos_of_ne_zero fun none => zero (noFraction.mpr none)
      refine .inr ⟨_, _, positive, rfl, ?_, ?_⟩
      · rw [fraction_toNat, parity]
      · have whole : magnitude bits % 2 ^ format.mantissaBitsWithoutImplicit = magnitude bits := by
          rw [small, Nat.zero_mul, Nat.zero_add] at split
          exact split
        rw [fraction_toNat, exponent_toNat, whole, small, units, if_pos small, unit]
        congr 2
        omega
  · have normal : magnitude bits / 2 ^ format.mantissaBitsWithoutImplicit ≠ 0 := fun zero =>
      subnormal (isZero.mpr zero)
    rw [if_neg subnormal]
    have joined : (1#1 ++ unpackMantissa bits).toNat = 2 ^ format.mantissaBitsWithoutImplicit +
        magnitude bits % 2 ^ format.mantissaBitsWithoutImplicit := by
      rw [BitVec.toNat_append, fraction_toNat, Nat.shiftLeft_eq, or_eq_add _ below, BitVec.toNat_one Nat.one_pos,
        Nat.one_mul]
    refine .inr ⟨_, _, joined ▸ Nat.add_pos_left (Nat.two_pow_pos _) _, rfl, ?_, ?_⟩
    · rw [joined, Nat.add_mod, parity, Nat.mod_eq_zero_of_dvd even, Nat.zero_add, Nat.mod_mod]
    · rw [joined, exponent_toNat, units, if_neg normal, unit, Nat.cast_mul, Nat.cast_pow, Nat.cast_ofNat, mul_assoc,
        ← zpow_natCast (2 : ℚ), ← zpow_add₀ two_ne_zero]
      generalize magnitude bits / 2 ^ format.mantissaBitsWithoutImplicit = exponent at normal ⊢
      congr 2
      omega

/-! ### Signs and numbers -/

variable {bits : BitVec format.numBits}

theorem sign?_unpack (number : magnitude bits ≤ infinite format) : sign? (unpack format bits) = some (signOf bits) := by
  rcases Nat.lt_or_eq_of_le number with finite | infinity
  · rcases unpack_of_lt_infinite finite with ⟨-, zero⟩ | ⟨_, _, _, found, -⟩
    · rw [zero, sign?]
    · rw [found, sign?]
  · rw [unpack_of_infinite_le infinity.ge, if_pos infinity, sign?]

theorem unpack_ne_notANumber_iff : unpack format bits ≠ .notANumber ↔ magnitude bits ≤ infinite format := by
  constructor
  · intro number
    apply Nat.le_of_not_lt
    intro none
    exact number (by rw [unpack_of_infinite_le none.le, if_neg none.ne'])
  · intro number none
    have signed := sign?_unpack number
    rw [none] at signed
    cases signed

theorem unpack_eq_notANumber_iff : unpack format bits = .notANumber ↔ infinite format < magnitude bits := by
  rw [← not_iff_not, Nat.not_lt]
  exact unpack_ne_notANumber_iff

theorem isInf_unpack_iff : (unpack format bits).isInf = true ↔ magnitude bits = infinite format := by
  by_cases finite : magnitude bits < infinite format
  · rcases unpack_of_lt_infinite finite with ⟨-, zero⟩ | ⟨_, _, _, found, -⟩
    · simp [zero, UnpackedFloat.isInf, finite.ne]
    · simp [found, UnpackedFloat.isInf, finite.ne]
  · rw [unpack_of_infinite_le (Nat.le_of_not_lt finite)]
    split
    · simpa [UnpackedFloat.isInf]
    · simpa [UnpackedFloat.isInf]

theorem number?_unpack (finite : magnitude bits < infinite format) :
    number? (unpack format bits) = some (signed (signOf bits)
      (units format.mantissaBitsWithoutImplicit (magnitude bits) * unit format)) := by
  rcases unpack_of_lt_infinite finite with ⟨none, zero⟩ | ⟨significand, exponent, _, found, -, value⟩
  · rw [zero, number?, none, units_of_lt (Nat.two_pow_pos _)]
    cases signOf bits <;> simp [signed]
  · rw [found, number?, ← value]

theorem number?_unpack_of_infinite_le (large : infinite format ≤ magnitude bits) :
    number? (unpack format bits) = none := by
  rw [unpack_of_infinite_le large]
  split
  · rfl
  · rfl

/-- A pattern that denotes a number is below the infinity. -/
theorem eq_of_number?_unpack {value : ℚ} (denoted : number? (unpack format bits) = some value) :
    magnitude bits < infinite format ∧
      value = signed (signOf bits) (units format.mantissaBitsWithoutImplicit (magnitude bits) * unit format) := by
  by_cases finite : magnitude bits < infinite format
  · rw [number?_unpack finite, Option.some.injEq] at denoted
    exact ⟨finite, denoted.symm⟩
  · rw [number?_unpack_of_infinite_le (Nat.le_of_not_lt finite)] at denoted
    cases denoted

theorem significand_unpack (finite : magnitude bits < infinite format) :
    significand (unpack format bits) % 2 = magnitude bits % 2 := by
  rcases unpack_of_lt_infinite finite with ⟨none, zero⟩ | ⟨_, _, _, found, parity, -⟩
  · rw [zero, none]
    rfl
  · rw [found]
    exact parity

end KernelForge.Binary
