import KernelForge.Proofs.Gemm.Outline
import Mathlib.Tactic.Ring

/-!
What comes of a descriptor of a matrix product, whatever its fields are. As long as eight times each split can be
written in 16 bits, the quantities of a kernel are those of unbounded arithmetic, because the memory of a threadgroup
bounds the block, and the only outcomes besides a kernel are the announced refusals. A larger split wraps. Where it
wraps to zero, the check of the division itself divides by zero; otherwise the check may pass, and the tiles of the
kernel are empty.
-/

namespace KernelForge

/-- The classes of failure with which a descriptor is refused. -/
def refusals : List FailureKind :=
  [.descriptorIncomplete, .invalidDescriptor, .invalidPrecisionPair, .threadgroupMemoryExceeded]

theorem PairDefect.kind_mem (defect : PairDefect) : defect.failure.kind ∈ refusals := by
  cases defect <;> simp [failure, Failure.of, refusals]

section Refusing

variable {ε α β : Type} {cause : ε}

/-- A computation is not refused for a cause if none of its parts is. -/
theorem bind_ne_error {first : Except ε α} {next : α → Except ε β} (other : first ≠ .error cause)
    (later : ∀ value, next value ≠ .error cause) : first >>= next ≠ .error cause := by
  cases first with
  | error failure => exact fun same => other (congrArg Except.error (Except.error.inj same))
  | ok value => exact later value

theorem refuse_ne_error {condition : Prop} [Decidable condition] {failure : ε} {next : PUnit → Except ε β}
    {rest : Except ε β} (other : failure ≠ cause) (later : ¬ condition → rest ≠ .error cause) :
    (if condition then (throw failure : Except ε PUnit) >>= next else rest) ≠ .error cause := by
  split
  · exact fun same => other (Except.error.inj same)
  · next fine => exact later fine

end Refusing

namespace Gemm

/-- Only a division by zero is no refusal. -/
theorem KernelDefect.kind_mem {defect : KernelDefect} (other : defect ≠ .divisionByZero) :
    defect.failure.kind ∈ refusals := by
  cases defect with
  | divisionByZero => exact absurd rfl other
  | pair operand defect =>
    rw [failure, Failure.kind_within]
    exact defect.kind_mem
  | _ => simp [failure, Failure.of, Failure.within, refusals]

/-- The splits can be written in 16 bits eight times over. -/
def Splits.Narrow (splits : Splits) : Prop :=
  splits.m.toNat < 8192 ∧ splits.n.toNat < 8192

/-- Eight times a split wraps to zero for the multiples of 8192. -/
theorem eight_mul_eq_zero_iff {split : UInt16} : 8 * split = 0 ↔ 8192 ∣ split.toNat := by
  rw [← UInt16.toNat_inj, UInt16.toNat_mul]
  have eight : (8 : UInt16).toNat = 8 := rfl
  have zero : (0 : UInt16).toNat = 0 := rfl
  rw [eight, zero]
  omega

theorem Splits.Narrow.not_dvd {splits : Splits} (narrow : splits.Narrow) (some : splits.m ≠ 0 ∧ splits.n ≠ 0) :
    ¬ (8192 ∣ splits.m.toNat ∨ 8192 ∣ splits.n.toNat) := by
  have rows := toNat_pos_of_ne_zero some.1
  have columns := toNat_pos_of_ne_zero some.2
  rintro (whole | whole)
  · exact Nat.not_lt.mpr (Nat.le_of_dvd rows whole) narrow.1
  · exact Nat.not_lt.mpr (Nat.le_of_dvd columns whole) narrow.2

section Refusals

variable {descriptor : Descriptor}

theorem checkTiling_ne_divisionByZero
    (whole : ¬ (8192 ∣ descriptor.splits.m.toNat ∨ 8192 ∣ descriptor.splits.n.toNat)) :
    descriptor.checkTiling ≠ .error .divisionByZero := by
  obtain ⟨rows, columns⟩ := not_or.mp whole
  rw [← eight_mul_eq_zero_iff] at rows columns
  simp only [Descriptor.checkTiling, rows, columns, if_false]
  split
  · simp
  · split <;> simp

theorem checkPair_ne_divisionByZero (operand : Operand) :
    descriptor.checkPair operand ≠ .error .divisionByZero := by
  unfold Descriptor.checkPair
  cases Precision.checkPair (descriptor.memory.get operand) (descriptor.register.get operand) <;> simp [Except.mapError]

theorem checkBias_ne_divisionByZero : descriptor.checkBias ≠ .error .divisionByZero := by
  unfold Descriptor.checkBias
  split
  · simp
  · split
    · split <;> simp
    · simp

theorem resolveLeading_ne_divisionByZero (operand : Operand) :
    descriptor.resolveLeading operand ≠ .error .divisionByZero := by
  unfold Descriptor.resolveLeading
  dsimp only
  split
  · simp
  · split <;> simp

/-- The division by zero comes from a split that wraps to zero, and from nothing else. -/
theorem ofDescriptor_ne_divisionByZero
    (whole : descriptor.splits.m ≠ 0 ∧ descriptor.splits.n ≠ 0 →
      ¬ (8192 ∣ descriptor.splits.m.toNat ∨ 8192 ∣ descriptor.splits.n.toNat)) :
    Kernel.ofDescriptor descriptor ≠ .error .divisionByZero := by
  unfold Kernel.ofDescriptor
  refine refuse_ne_error (by simp) fun _ => ?_
  refine refuse_ne_error (by simp) fun some => ?_
  rw [Bool.or_eq_true, decide_eq_true_eq, decide_eq_true_eq, not_or] at some
  refine bind_ne_error (checkTiling_ne_divisionByZero (whole some)) fun _ => ?_
  refine bind_ne_error (checkPair_ne_divisionByZero .a) fun _ => ?_
  refine bind_ne_error (checkPair_ne_divisionByZero .b) fun _ => ?_
  refine bind_ne_error (checkPair_ne_divisionByZero .c) fun _ => ?_
  refine refuse_ne_error (by simp) fun _ => ?_
  refine bind_ne_error checkBias_ne_divisionByZero fun _ => ?_
  refine bind_ne_error (resolveLeading_ne_divisionByZero .a) fun _ => ?_
  refine bind_ne_error (resolveLeading_ne_divisionByZero .b) fun _ => ?_
  refine bind_ne_error (resolveLeading_ne_divisionByZero .c) fun _ => ?_
  exact refuse_ne_error (by simp) fun _ => by simp [pure, Except.pure]

theorem dvd_of_divisionByZero (failed : Kernel.ofDescriptor descriptor = .error .divisionByZero) :
    8192 ∣ descriptor.splits.m.toNat ∨ 8192 ∣ descriptor.splits.n.toNat := by
  by_contra whole
  exact ofDescriptor_ne_divisionByZero (fun _ => whole) failed

/-- As long as the splits do not wrap, every failure is a refusal. -/
theorem kind_mem_of_narrow (narrow : descriptor.splits.Narrow) {defect : KernelDefect}
    (failed : Kernel.ofDescriptor descriptor = .error defect) : defect.failure.kind ∈ refusals := by
  apply KernelDefect.kind_mem
  rintro rfl
  exact ofDescriptor_ne_divisionByZero narrow.not_dvd failed

end Refusals

/-- The quantities of a kernel are those of unbounded arithmetic. -/
structure Exact (descriptor : Descriptor) (kernel : Kernel) : Prop where
  rows : kernel.registerM.toNat * descriptor.splits.m.toNat = descriptor.block.m.toNat
  columns : kernel.registerN.toNat * descriptor.splits.n.toNat = descriptor.block.n.toNat
  tileRows : 0 < kernel.registerM.toNat ∧ 8 ∣ kernel.registerM.toNat
  tileColumns : 0 < kernel.registerN.toNat ∧ 8 ∣ kernel.registerN.toNat
  leading : ∀ operand, (descriptor.rowLength operand).toNat ≤ (kernel.leading.get operand).toNat
  memory : kernel.threadgroupMemory.toNat =
    max (descriptor.blockBytes .a kernel.leading.a + descriptor.blockBytes .b kernel.leading.b)
      (descriptor.blockBytes .c kernel.leading.c)
  fits : kernel.threadgroupMemory.toNat ≤ 32768
  threads : kernel.threadgroupSize.toNat = 32 * descriptor.splits.m.toNat * descriptor.splits.n.toNat

/-- A tile of a block that is divided without wrapping is made of 8 by 8 matrices. -/
theorem eight_dvd_tile {block split : UInt16} (narrow : split.toNat < 8192) (some : split ≠ 0)
    (divides : block % (8 * split) = 0) : 8 ∣ (block / split).toNat := by
  have product : (8 * split).toNat = 8 * split.toNat := by
    rw [UInt16.toNat_mul]
    exact Nat.mod_eq_of_lt (by simp; omega)
  have remainder : block.toNat % (8 * split.toNat) = 0 := by
    rw [← product, ← UInt16.toNat_mod, divides]
    rfl
  obtain ⟨count, whole⟩ := Nat.dvd_of_mod_eq_zero remainder
  rw [UInt16.toNat_div, whole, Nat.mul_right_comm,
    Nat.mul_div_cancel _ (toNat_pos_of_ne_zero some)]
  exact Nat.dvd_mul_right 8 count

/-- A threadgroup that fits its memory has few enough threads for 16 bits. -/
theorem Accepted.threads {descriptor : Descriptor} {kernel : Kernel} (accepted : Accepted descriptor kernel)
    (narrow : descriptor.splits.Narrow) :
    kernel.threadgroupSize.toNat = 32 * descriptor.splits.m.toNat * descriptor.splits.n.toNat := by
  obtain ⟨divideRows, divideColumns, -⟩ := accepted.tiled
  have regular := accepted.regular narrow.1 narrow.2
  have tilesM := regular.tiles_m
  have tilesN := regular.tiles_n
  have blockM := regular.block_m
  have blockN := regular.block_n
  rw [accepted.descriptor_eq] at tilesM tilesN blockM blockN
  have eightM : 8 ∣ kernel.registerM.toNat := by
    rw [accepted.registerM]
    exact eight_dvd_tile narrow.1 accepted.splits.1 divideRows
  have eightN : 8 ∣ kernel.registerN.toNat := by
    rw [accepted.registerN]
    exact eight_dvd_tile narrow.2 accepted.splits.2 divideColumns
  have tallM : 8 * descriptor.splits.m.toNat ≤ descriptor.block.m.toNat := by
    rw [← tilesM] at blockM ⊢
    exact Nat.mul_le_mul_right _ (Nat.le_of_dvd (Nat.pos_of_mul_pos_right blockM) eightM)
  have tallN : 8 * descriptor.splits.n.toNat ≤ descriptor.block.n.toNat := by
    rw [← tilesN] at blockN ⊢
    exact Nat.mul_le_mul_right _ (Nat.le_of_dvd (Nat.pos_of_mul_pos_right blockN) eightN)
  have groups : 64 * (descriptor.splits.m.toNat * descriptor.splits.n.toNat) ≤ 32768 :=
    calc 64 * (descriptor.splits.m.toNat * descriptor.splits.n.toNat)
        = 8 * descriptor.splits.n.toNat * (8 * descriptor.splits.m.toNat) := by ring
      _ ≤ descriptor.block.n.toNat * descriptor.block.m.toNat := Nat.mul_le_mul tallN tallM
      _ ≤ 32768 := accepted.area_le
  have columns : 0 < descriptor.splits.n.toNat := toNat_pos_of_ne_zero accepted.splits.2
  have rows : descriptor.splits.m.toNat ≤ descriptor.splits.m.toNat * descriptor.splits.n.toNat :=
    Nat.le_mul_of_pos_right _ columns
  have first : (32 * descriptor.splits.m).toNat = 32 * descriptor.splits.m.toNat := by
    rw [UInt16.toNat_mul]
    exact Nat.mod_eq_of_lt (by simp; omega)
  rw [accepted.threadgroupSize, UInt16.toNat_mul, first, Nat.mul_assoc]
  exact Nat.mod_eq_of_lt (by omega)

theorem Accepted.exact {descriptor : Descriptor} {kernel : Kernel} (accepted : Accepted descriptor kernel)
    (narrow : descriptor.splits.Narrow) : Exact descriptor kernel := by
  obtain ⟨divideRows, divideColumns, -⟩ := accepted.tiled
  have regular := accepted.regular narrow.1 narrow.2
  have rows := regular.tiles_m
  have columns := regular.tiles_n
  have tall := regular.block_m
  have wide := regular.block_n
  rw [accepted.descriptor_eq] at rows columns tall wide
  have bytes : max (descriptor.blockBytes .a kernel.leading.a + descriptor.blockBytes .b kernel.leading.b)
      (descriptor.blockBytes .c kernel.leading.c) ≤ 32768 := by
    rw [← accepted.descriptor_eq]
    exact accepted.fits
  have memory : kernel.threadgroupMemory.toNat =
      max (descriptor.blockBytes .a kernel.leading.a + descriptor.blockBytes .b kernel.leading.b)
        (descriptor.blockBytes .c kernel.leading.c) := by
    rw [accepted.threadgroupMemory, ← accepted.descriptor_eq]
    rw [← accepted.descriptor_eq] at bytes
    exact UInt16.toNat_ofNat_of_lt' (Nat.lt_of_le_of_lt bytes (by decide))
  exact {
    rows
    columns
    tileRows := by
      rw [← rows] at tall
      exact ⟨Nat.pos_of_mul_pos_right tall, accepted.registerM ▸ eight_dvd_tile narrow.1 accepted.splits.1 divideRows⟩
    tileColumns := by
      rw [← columns] at wide
      exact ⟨Nat.pos_of_mul_pos_right wide,
        accepted.registerN ▸ eight_dvd_tile narrow.2 accepted.splits.2 divideColumns⟩
    leading := accepted.rowLength_le
    memory
    fits := memory ▸ bytes
    threads := accepted.threads narrow }

theorem div_eq_zero_of_lt {block split : UInt16} (below : block.toNat < split.toNat) : block / split = 0 := by
  rw [← UInt16.toNat_inj, UInt16.toNat_div, Nat.div_eq_of_lt below]
  rfl

/-- A split that wraps exceeds every block that fits, so the tiles it leaves are empty. -/
theorem Accepted.tile_eq_zero {descriptor : Descriptor} {kernel : Kernel} (accepted : Accepted descriptor kernel)
    (wide : ¬ descriptor.splits.Narrow) : kernel.registerM = 0 ∨ kernel.registerN = 0 := by
  obtain ⟨tall, broad⟩ := accepted.block_lt
  rw [accepted.registerM, accepted.registerN]
  by_cases rows : descriptor.splits.m.toNat < 8192
  · have columns : ¬ descriptor.splits.n.toNat < 8192 := fun columns => wide ⟨rows, columns⟩
    exact .inr (div_eq_zero_of_lt (by omega))
  · exact .inl (div_eq_zero_of_lt (by omega))

/-- Without wrapping every descriptor gives a kernel whose quantities are exact or is refused. With wrapping a kernel
    has tiles without rows or columns, and a split that is a multiple of 8192 may end in a division by zero. -/
theorem ofDescriptor_derived (descriptor : Descriptor) :
    (descriptor.splits.Narrow →
      (∃ kernel, Kernel.ofDescriptor descriptor = .ok kernel ∧ Exact descriptor kernel) ∨
      ∃ defect, Kernel.ofDescriptor descriptor = .error defect ∧ defect.failure.kind ∈ refusals) ∧
    (¬ descriptor.splits.Narrow →
      (∃ kernel, Kernel.ofDescriptor descriptor = .ok kernel ∧ (kernel.registerM = 0 ∨ kernel.registerN = 0)) ∨
      ∃ defect, Kernel.ofDescriptor descriptor = .error defect ∧
        (defect.failure.kind ∈ refusals ∨
          defect = .divisionByZero ∧ (8192 ∣ descriptor.splits.m.toNat ∨ 8192 ∣ descriptor.splits.n.toNat))) := by
  cases outcome : Kernel.ofDescriptor descriptor with
  | ok kernel =>
    have accepted := accepted_of_ofDescriptor outcome
    exact ⟨fun narrow => .inl ⟨kernel, rfl, accepted.exact narrow⟩,
      fun wide => .inl ⟨kernel, rfl, accepted.tile_eq_zero wide⟩⟩
  | error defect =>
    refine ⟨fun narrow => .inr ⟨defect, rfl, kind_mem_of_narrow narrow outcome⟩,
      fun _ => .inr ⟨defect, rfl, ?_⟩⟩
    by_cases zero : defect = .divisionByZero
    · exact .inr ⟨zero, dvd_of_divisionByZero (zero ▸ outcome)⟩
    · exact .inl (KernelDefect.kind_mem zero)

/-- A single block of 8 by 8 by 8 in full precision, divided by a number of rows. -/
def splitDescriptor (rows : UInt16) : Descriptor where
  block := ⟨8, 8, 8⟩
  memory := ⟨.fp32, .fp32, .fp32⟩
  register := ⟨.fp32, .fp32, .fp32⟩
  splits := ⟨rows, 1⟩

/-- The block as a whole is one tile; with the first split that only seems to divide it there is none. -/
theorem ofDescriptor_derived_small :
    ((splitDescriptor 1).splits.Narrow ∧
      ∃ kernel, Kernel.ofDescriptor (splitDescriptor 1) = .ok kernel ∧ Exact (splitDescriptor 1) kernel) ∧
    ¬ (splitDescriptor 8193).splits.Narrow ∧
      ∃ kernel, Kernel.ofDescriptor (splitDescriptor 8193) = .ok kernel ∧
        (kernel.registerM = 0 ∨ kernel.registerN = 0) := by
  have narrow : (splitDescriptor 1).splits.Narrow := ⟨by decide, by decide⟩
  have wide : ¬ (splitDescriptor 8193).splits.Narrow := fun narrow => absurd narrow.1 (by decide)
  obtain ⟨one, divided⟩ : ∃ kernel, Kernel.ofDescriptor (splitDescriptor 1) = .ok kernel := ⟨_, rfl⟩
  obtain ⟨none, wrapped⟩ : ∃ kernel, Kernel.ofDescriptor (splitDescriptor 8193) = .ok kernel := ⟨_, rfl⟩
  refine ⟨⟨narrow, ?_⟩, wide, ?_⟩
  · obtain whole | ⟨defect, failed, -⟩ := (ofDescriptor_derived (splitDescriptor 1)).1 narrow
    · exact whole
    · cases divided.symm.trans failed
  · obtain empty | ⟨defect, failed, -⟩ := (ofDescriptor_derived (splitDescriptor 8193)).2 wide
    · exact empty
    · cases wrapped.symm.trans failed

/-- The first split that wraps ends in a division by zero, and the next one in a kernel whose tile has no rows. -/
theorem ofDescriptor_wraps :
    Kernel.ofDescriptor (splitDescriptor 8192) = .error .divisionByZero ∧
      ∃ kernel, Kernel.ofDescriptor (splitDescriptor 8193) = .ok kernel ∧ kernel.registerM = 0 ∧
        ¬ Exact (splitDescriptor 8193) kernel := by
  refine ⟨rfl, _, rfl, rfl, ?_⟩
  intro exact
  exact absurd exact.rows (by decide)

end Gemm

end KernelForge
