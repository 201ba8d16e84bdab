import KernelForge.Proofs.Single

/-!
What zeros do to sums and products in single precision. A zero added to a number changes at most the sign of another
zero; a product with zero is a zero for every finite number and no number at all for all others; and what is no number
stays so in every sum and through every format. So zeros behind the last term leave a register as it was but for the
sign of a zero, whichever pieces of eight they fall into, and one term that is no number takes the register with it.
-/

namespace KernelForge.Single

open Float.Model (UnpackedFloat)
open Float.Model.UnpackedFloat (pack_unpack_of_valid isNaN_iff)

/-- Equal but for the sign of a zero. -/
def Same (first second : Float32) : Prop :=
  first = second ∨ (first == 0) = true ∧ (second == 0) = true

/-- A value is made of its parts. -/
theorem pack_unpack (value : Float32) : Float32.ofModel (.pack value.toModel.unpack) = value := by
  rw [← Float32.toBits_inj, ← UInt32.toBitVec_inj]
  exact pack_unpack_of_valid value.toModel.valid

theorem add_eq (first second : Float32) :
    first + second = .ofModel (.pack (.add .binary32 first.toModel.unpack second.toModel.unpack)) := rfl

theorem mul_eq (first second : Float32) :
    first * second = .ofModel (.pack (.mul .binary32 first.toModel.unpack second.toModel.unpack)) := rfl

theorem unpack_zero : (0 : Float32).toModel.unpack = .zero .positive := by
  have zero : (0 : Float32) = .ofBits 0 := rfl
  rw [zero]
  rfl

theorem unpack_pack_zero (sign : UnpackedFloat.Sign) :
    (Float32.ofModel (.pack (.zero sign))).toModel.unpack = .zero sign := by
  cases sign <;> rfl

theorem isNaN_iff_unpack {value : Float32} : value.isNaN = true ↔ value.toModel.unpack = .notANumber :=
  UnpackedFloat.isNaN_iff

theorem isNaN_pack : (Float32.ofModel (.pack .notANumber)).isNaN = true := rfl

/-- The two zeros. -/
theorem beq_zero_iff {value : Float32} : (value == 0) = true ↔ ∃ sign, value.toModel.unpack = .zero sign := by
  have compared : (value == 0) = UnpackedFloat.beq value.toModel.unpack (0 : Float32).toModel.unpack := rfl
  rw [compared, unpack_zero]
  cases value.toModel.unpack with
  | notANumber => simp [UnpackedFloat.beq, UnpackedFloat.compare]
  | infinity sign => cases sign <;> simp [UnpackedFloat.beq, UnpackedFloat.compare]
  | zero sign => simp [UnpackedFloat.beq, UnpackedFloat.compare]
  | finite sign _ _ _ => cases sign <;> simp [UnpackedFloat.beq, UnpackedFloat.compare]

namespace Same

variable {first second third : Float32}

theorem refl (value : Float32) : Same value value := .inl rfl

theorem symm (same : Same first second) : Same second first := by
  rcases same with equal | ⟨left, right⟩
  · exact .inl equal.symm
  · exact .inr ⟨right, left⟩

theorem trans (same : Same first second) (also : Same second third) : Same first third := by
  rcases same with rfl | ⟨left, right⟩
  · exact also
  · rcases also with rfl | ⟨-, last⟩
    · exact .inr ⟨left, right⟩
    · exact .inr ⟨left, last⟩

end Same

/-- Parts that differ from those of a value at most in the sign of a zero. -/
theorem same_of_parts {parts : UnpackedFloat} {value : Float32}
    (equal : parts = value.toModel.unpack ∨ ∃ sign other, parts = .zero sign ∧ value.toModel.unpack = .zero other) :
    Same (.ofModel (.pack parts)) value := by
  rcases equal with rfl | ⟨sign, other, rfl, zero⟩
  · exact .inl (pack_unpack value)
  · exact .inr ⟨beq_zero_iff.mpr ⟨sign, unpack_pack_zero sign⟩, beq_zero_iff.mpr ⟨other, zero⟩⟩

/-- A zero adds nothing. -/
theorem add_zero_same {zero : Float32} (isZero : (zero == 0) = true) (value : Float32) : Same (value + zero) value := by
  obtain ⟨sign, parts⟩ := beq_zero_iff.mp isZero
  rw [add_eq, parts]
  refine same_of_parts ?_
  cases value.toModel.unpack with
  | notANumber => exact .inl rfl
  | infinity _ => exact .inl rfl
  | finite _ _ _ _ => exact .inl rfl
  | zero other => exact .inr ⟨_, other, (apply_ite UnpackedFloat.zero _ _ _).symm, rfl⟩

theorem zero_add_same {zero : Float32} (isZero : (zero == 0) = true) (value : Float32) : Same (zero + value) value := by
  obtain ⟨sign, parts⟩ := beq_zero_iff.mp isZero
  rw [add_eq, parts]
  refine same_of_parts ?_
  cases value.toModel.unpack with
  | notANumber => exact .inl rfl
  | infinity _ => exact .inl rfl
  | finite _ _ _ _ => exact .inl rfl
  | zero other => exact .inr ⟨_, other, (apply_ite UnpackedFloat.zero _ _ _).symm, rfl⟩

theorem Same.add {a b c d : Float32} (left : Same a b) (right : Same c d) : Same (a + c) (b + d) := by
  have first : Same (a + c) (b + c) := by
    rcases left with rfl | ⟨zero, also⟩
    · exact .refl _
    · exact (zero_add_same zero c).trans (zero_add_same also c).symm
  have second : Same (b + c) (b + d) := by
    rcases right with rfl | ⟨zero, also⟩
    · exact .refl _
    · exact (add_zero_same zero b).trans (add_zero_same also b).symm
  exact first.trans second

/-- A finite number times zero is a zero. -/
theorem mul_zero_of_isFinite {value : Float32} (finite : value.isFinite = true) : (value * 0 == 0) = true := by
  refine beq_zero_iff.mpr ?_
  have status : value.toModel.unpack.isFinite = true := finite
  rw [mul_eq, unpack_zero]
  cases number : value.toModel.unpack with
  | notANumber =>
    rw [number] at status
    cases status
  | infinity _ =>
    rw [number] at status
    cases status
  | zero _ => exact ⟨_, unpack_pack_zero _⟩
  | finite _ _ _ _ => exact ⟨_, unpack_pack_zero _⟩

/-- Any other number times zero is none. -/
theorem mul_zero_of_not_isFinite {value : Float32} (infinite : value.isFinite = false) :
    (value * 0).isNaN = true := by
  have status : value.toModel.unpack.isFinite = false := infinite
  rw [mul_eq, unpack_zero]
  cases number : value.toModel.unpack with
  | notANumber => exact isNaN_pack
  | infinity _ => exact isNaN_pack
  | zero _ =>
    rw [number] at status
    cases status
  | finite _ _ _ _ =>
    rw [number] at status
    cases status

theorem isNaN_add_left {first : Float32} (nan : first.isNaN = true) (second : Float32) :
    (first + second).isNaN = true := by
  rw [add_eq, isNaN_iff_unpack.mp nan]
  exact isNaN_pack

theorem isNaN_add_right {second : Float32} (nan : second.isNaN = true) (first : Float32) :
    (first + second).isNaN = true := by
  rw [add_eq, isNaN_iff_unpack.mp nan]
  cases first.toModel.unpack <;> exact isNaN_pack

end KernelForge.Single

namespace KernelForge.Precision

open Single

/-- The negative zero survives every format as the positive one does. -/
theorem roundBits_negativeZero (precision : Precision) : precision.roundBits 0x80000000 = 0x80000000 := by
  unfold roundBits
  split
  · rfl
  · split
    · rfl
    · rfl

theorem round_eq_zero (precision : Precision) {value : Float32} (zero : (value == 0) = true) :
    (precision.round value == 0) = true := by
  obtain ⟨sign, parts⟩ := beq_zero_iff.mp zero
  unfold round
  split
  · rw [← pack_unpack value, parts]
    cases sign with
    | positive =>
      have pattern : (Float32.ofModel (.pack (.zero .positive))).toBits = 0 := rfl
      rw [pattern, roundBits_zero]
      rfl
    | negative =>
      have pattern : (Float32.ofModel (.pack (.zero .negative))).toBits = 0x80000000 := rfl
      rw [pattern, roundBits_negativeZero]
      rfl
  · exact zero

theorem round_same (precision : Precision) {first second : Float32} (same : Same first second) :
    Same (precision.round first) (precision.round second) := by
  rcases same with rfl | ⟨left, right⟩
  · exact .refl _
  · exact .inr ⟨precision.round_eq_zero left, precision.round_eq_zero right⟩

theorem isNaN_round (precision : Precision) {value : Float32} (nan : value.isNaN = true) :
    (precision.round value).isNaN = true := by
  unfold round
  split
  · rw [← pack_unpack value, isNaN_iff_unpack.mp nan]
    have pattern : (Float32.ofModel (.pack .notANumber)).toBits = 0x7FC00000 := rfl
    rw [pattern, roundBits_nan]
    rfl
  · exact nan

end KernelForge.Precision

namespace KernelForge.Single

theorem sum_append_zeros {zeros : List Float32} (isZero : ∀ value ∈ zeros, (value == 0) = true)
    (terms : List Float32) : Same (Scalar.sum (terms ++ zeros)) (Scalar.sum terms) := by
  unfold Scalar.sum
  rw [List.foldl_append]
  generalize terms.foldl (· + ·) Scalar.zero = held
  induction zeros generalizing held with
  | nil => exact .refl held
  | cons zero rest ih =>
    have later : ∀ value ∈ rest, (value == 0) = true := fun value member => isZero value (List.mem_cons_of_mem _ member)
    exact (ih later _).trans (add_zero_same (isZero zero List.mem_cons_self) held)

theorem isNaN_sum {terms : List Float32} (lost : ∃ term ∈ terms, term.isNaN = true) :
    (Scalar.sum terms).isNaN = true := by
  have stays : ∀ (rest : List Float32) (held : Float32), held.isNaN = true →
      (rest.foldl (· + ·) held).isNaN = true := by
    intro rest
    induction rest with
    | nil => exact fun _ nan => nan
    | cons term rest ih => exact fun held nan => ih _ (isNaN_add_left nan term)
  obtain ⟨term, member, nan⟩ := lost
  obtain ⟨before, rest, rfl⟩ := List.append_of_mem member
  unfold Scalar.sum
  rw [List.foldl_append, List.foldl_cons]
  exact stays rest _ (isNaN_add_right nan _)

theorem accumulate_nil (register : Float32) : Register.accumulate .fp32 register [] = register := by
  simp [Register.accumulate, eights]

/-- Registers of 32 bits take a piece without rounding. -/
theorem accumulate_cons (register first : Float32) (rest : List Float32) :
    Register.accumulate .fp32 register (first :: rest) =
      Register.accumulate .fp32 (register + Scalar.sum (first :: rest.take 7)) (rest.drop 7) := by
  unfold Register.accumulate
  rw [eights]
  rfl

/-- A register to which only zeros are added. -/
theorem accumulate_zeros {zeros : List Float32} (isZero : ∀ value ∈ zeros, (value == 0) = true) (register : Float32) :
    Same (Register.accumulate .fp32 register zeros) register := by
  fun_induction eights zeros generalizing register with
  | case1 =>
    rw [accumulate_nil]
    exact .refl register
  | case2 first rest ih =>
    rw [accumulate_cons]
    have piece : Same (Scalar.sum (first :: rest.take 7)) 0 := by
      refine sum_append_zeros (fun value member => isZero value ?_) []
      exact List.mem_of_mem_take (i := 8) member
    have later := ih (fun value member => isZero value (List.mem_cons_of_mem _ (List.mem_of_mem_drop member)))
      (register + Scalar.sum (first :: rest.take 7))
    exact later.trans ((Same.add (.refl register) piece).trans (add_zero_same rfl register))

/-- Zeros behind the last term share a piece with it or have pieces of their own. -/
theorem accumulate_append_zeros {zeros : List Float32} (isZero : ∀ value ∈ zeros, (value == 0) = true)
    (terms : List Float32) {first second : Float32} (same : Same first second) :
    Same (Register.accumulate .fp32 first (terms ++ zeros)) (Register.accumulate .fp32 second terms) := by
  fun_induction eights terms generalizing first second zeros with
  | case1 =>
    rw [accumulate_nil]
    exact (accumulate_zeros isZero first).trans same
  | case2 term rest ih =>
    rw [List.cons_append, accumulate_cons, accumulate_cons, List.take_append, List.drop_append]
    have taken : ∀ value ∈ zeros.take (7 - rest.length), (value == 0) = true := fun value member =>
      isZero value (List.mem_of_mem_take member)
    have piece := sum_append_zeros taken (term :: rest.take 7)
    exact ih (fun value member => isZero value (List.mem_of_mem_drop member)) (same.add piece)

/-- A term that is no number. -/
theorem isNaN_accumulate {terms : List Float32} (lost : ∃ term ∈ terms, term.isNaN = true) (register : Float32) :
    (Register.accumulate .fp32 register terms).isNaN = true := by
  have stays : ∀ (pieces : List (List Float32)) (held : Float32), held.isNaN = true →
      (pieces.foldl (fun held piece => Register.round .fp32 (held + Scalar.sum piece)) held).isNaN = true := by
    intro pieces
    induction pieces with
    | nil => exact fun _ nan => nan
    | cons piece pieces ih => exact fun held nan => ih _ (isNaN_add_left nan _)
  fun_induction eights terms generalizing register with
  | case1 => simp at lost
  | case2 first rest ih =>
    rw [accumulate_cons]
    obtain ⟨term, member, nan⟩ := lost
    rw [← List.take_append_drop 8 (first :: rest), List.mem_append] at member
    rcases member with here | later
    · exact stays _ _ (isNaN_add_right (isNaN_sum ⟨term, here, nan⟩) register)
    · exact ih ⟨term, later, nan⟩ _

end KernelForge.Single
