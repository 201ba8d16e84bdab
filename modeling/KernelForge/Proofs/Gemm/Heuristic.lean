import KernelForge.Gemm.Heuristic
import KernelForge.Proofs.Gemm.Kernel
import KernelForge.Tuning.BuiltIn

/-!
What becomes of a kernel that the heuristics choose from validated tables. Formats, bias and strides always fit
together, so the memory of a threadgroup is the only limit that such a kernel can run into, with one exception:
tables are asked for blocks in multiples of eight, while the generations that divide a block among two by two SIMD
groups need multiples of sixteen.
-/

namespace KernelForge.Gemm

open Tuning (Tables blockFindings)

/-- A block that is not empty and made of tiles of eight. -/
structure Block.Tiled (block : Block) : Prop where
  m : block.m ≠ 0
  n : block.n ≠ 0
  k : block.k ≠ 0
  eightM : block.m % 8 = 0
  eightN : block.n % 8 = 0
  eightK : block.k % 8 = 0

theorem tiled_of_blockFindings {name : String} {block : Block} (fine : blockFindings name block = []) :
    block.Tiled := by
  unfold blockFindings at fine
  split at fine
  · cases fine
  · rename_i accepted
    simp only [Bool.or_eq_true, decide_eq_true_eq, not_or, ne_eq, not_not] at accepted
    obtain ⟨⟨⟨⟨⟨m, n⟩, k⟩, eightM⟩, eightN⟩, eightK⟩ := accepted
    exact ⟨m, n, k, eightM, eightN, eightK⟩

/-- The blocks of validated tables. -/
structure TiledBlocks (tables : Tables) : Prop where
  apple9 : tables.gemm.blocks.apple9.Tiled
  small : tables.gemm.blocks.small.Tiled
  largeFp32 : tables.gemm.blocks.largeFp32.Tiled
  largeFp16 : tables.gemm.blocks.largeFp16.Tiled

theorem tiledBlocks_of_validate {tables : Tables} (valid : tables.validate = .ok ()) : TiledBlocks tables := by
  unfold Tables.validate at valid
  split at valid
  · rename_i silent
    simp only [Tables.findings, List.isEmpty_iff, List.append_eq_nil_iff] at silent
    obtain ⟨⟨⟨⟨⟨⟨⟨⟨-, apple9⟩, small⟩, largeFp32⟩, largeFp16⟩, -⟩, -⟩, -⟩, -⟩ := silent
    exact ⟨tiled_of_blockFindings apple9, tiled_of_blockFindings small, tiled_of_blockFindings largeFp32,
      tiled_of_blockFindings largeFp16⟩
  · cases valid

/-- What the heuristics choose from such tables. -/
structure Chosen (problem : Problem) (device : Device) (descriptor : Descriptor) : Prop where
  memory : descriptor.memory = problem.memory
  valid : ∀ operand, (problem.memory.get operand).isValid
  register : descriptor.register = Problem.registerPrecisions problem.memory device.family
  splits : descriptor.splits = if device.family.prefersAsyncCopy then ⟨2, 2⟩ else ⟨1, 1⟩
  transpose : descriptor.transpose = problem.transpose
  bias : descriptor.bias = problem.kernelBias
  axis : problem.bias.axis.code ≤ 2
  tiled : descriptor.block.Tiled
  leading : descriptor.leading = ⟨0, 0, 0⟩ ∨
    descriptor.leading = Problem.paddedLeading descriptor.block problem.transpose problem.memory

theorem valid_of_check {problem : Problem} (checked : problem.check = .ok ()) :
    (∀ operand, (problem.memory.get operand).isValid) ∧ problem.bias.axis.code ≤ 2 := by
  unfold Problem.check at checked
  split at checked
  · cases checked
  · split at checked
    · cases checked
    · rename_i valid
      split at checked
      · cases checked
      · rename_i axis
        simp only [Bool.or_eq_true, Bool.not_eq_true', not_or, Bool.not_eq_false] at valid
        obtain ⟨⟨a, b⟩, c⟩ := valid
        exact ⟨by rintro (_ | _ | _) <;> assumption, UInt8.not_lt.mp axis⟩

/-- No size of a problem that a kernel was chosen for is zero. -/
theorem occupied_of_descriptor {problem : Problem} {device : Device} {tables : Tables} {descriptor : Descriptor}
    (chosen : problem.descriptor device tables = .ok descriptor) :
    problem.extents.m ≠ 0 ∧ problem.extents.n ≠ 0 ∧ problem.extents.k ≠ 0 := by
  unfold Problem.descriptor at chosen
  obtain ⟨_, checked, -⟩ := bind_ok_iff.mp chosen
  rw [mapError_ok, Problem.check] at checked
  split at checked
  · cases checked
  · rename_i occupied
    simpa only [Bool.or_eq_true, decide_eq_true_eq, not_or, and_assoc] using occupied

theorem chosen_of_descriptor {problem : Problem} {device : Device} {tables : Tables} {descriptor : Descriptor}
    (blocks : TiledBlocks tables) (chosen : problem.descriptor device tables = .ok descriptor) :
    Chosen problem device descriptor := by
  unfold Problem.descriptor at chosen
  rw [bind_ok_iff] at chosen
  obtain ⟨_, checked, chosen⟩ := chosen
  obtain ⟨valid, axis⟩ := valid_of_check (mapError_ok.mp checked)
  rw [refuse_ok_iff] at chosen
  obtain ⟨-, chosen⟩ := chosen
  split at chosen
  · rename_i newest
    obtain rfl := Except.ok.inj chosen
    simp only [Bool.not_eq_true'] at newest
    exact ⟨rfl, valid, rfl, by simp [newest], rfl, rfl, axis, blocks.apple9, .inl rfl⟩
  · rename_i older
    simp only [Bool.not_eq_true', Bool.not_eq_false] at older
    split at chosen
    · obtain rfl := Except.ok.inj chosen
      exact ⟨rfl, valid, rfl, by simp [older], rfl, rfl, axis, blocks.small, .inl rfl⟩
    · split at chosen
      · obtain rfl := Except.ok.inj chosen
        exact ⟨rfl, valid, rfl, by simp [older], rfl, rfl, axis, blocks.largeFp32, .inr rfl⟩
      · obtain rfl := Except.ok.inj chosen
        exact ⟨rfl, valid, rfl, by simp [older], rfl, rfl, axis, blocks.largeFp16, .inl rfl⟩

theorem mod_sixteen_iff {size : UInt16} : size % 16 = 0 ↔ 16 ∣ size.toNat := by
  rw [Nat.dvd_iff_mod_eq_zero, ← UInt16.toNat_inj]
  simp

/-- Padding of a number in multiples of eight wraps to zero or not at all. -/
theorem le_padded {size : UInt16} (eight : size % 8 = 0) :
    size ≤ size + 4 ∧ (size + 8 = 0 ∨ size ≤ size + 8) := by
  have bounded := size.toNat_lt
  simp only [UInt16.le_iff_toNat_le, ← UInt16.toNat_inj] at eight ⊢
  simp at eight ⊢
  omega

namespace Chosen

variable {problem : Problem} {device : Device} {descriptor : Descriptor}

/-- A register format is that of memory or single precision. -/
theorem register_cases (chosen : Chosen problem device descriptor) (operand : Operand) :
    descriptor.register.get operand = descriptor.memory.get operand ∨ descriptor.register.get operand = .fp32 := by
  rw [chosen.register, chosen.memory]
  cases operand with
  | a =>
    simp only [PerOperand.get, Problem.registerPrecisions]
    split
    · exact .inr rfl
    · exact .inl rfl
  | b =>
    simp only [PerOperand.get, Problem.registerPrecisions]
    split
    · exact .inr rfl
    · exact .inl rfl
  | c =>
    simp only [PerOperand.get, Problem.registerPrecisions]
    split
    · rename_i half
      simp only [Bool.and_eq_true, decide_eq_true_eq] at half
      exact .inl half.2.symm
    · exact .inr rfl

theorem checkPair (chosen : Chosen problem device descriptor) (operand : Operand) :
    descriptor.checkPair operand = .ok () := by
  have memory : (descriptor.memory.get operand).isValid := chosen.memory ▸ chosen.valid operand
  rw [Descriptor.checkPair, mapError_ok, Precision.checkPair]
  rcases chosen.register_cases operand with same | single
  · simp [same, memory]
  · have valid : Precision.fp32.isValid := by decide
    simp [single, memory, valid]

theorem accumulator (chosen : Chosen problem device descriptor) : descriptor.register.c ≠ .bf16 := by
  rw [chosen.register, Problem.registerPrecisions]
  dsimp only
  split <;> decide

theorem checkBias (chosen : Chosen problem device descriptor) : descriptor.checkBias = .ok () := by
  have product : problem.memory.c.isValid := chosen.valid .c
  have axis : descriptor.bias.axis = problem.bias.axis := by
    rw [chosen.bias, Problem.kernelBias]
    split <;> rfl
  have known : problem.bias.axis = .none ∨ problem.bias.axis = .rows ∨ problem.bias.axis = .columns := by
    have bounded := chosen.axis
    generalize problem.bias.axis = given at bounded
    obtain ⟨code⟩ := given
    simp only [UInt8.le_iff_toNat_le, BiasAxis.mk.injEq, ← UInt8.toNat_inj] at bounded ⊢
    simp at bounded ⊢
    omega
  have format : problem.bias.axis ≠ .none → descriptor.bias.precision.isValid := by
    intro biased
    rw [chosen.bias, Problem.kernelBias]
    split
    · exact product
    · simp_all
  unfold Descriptor.checkBias
  rw [axis]
  rcases known with none | rows | columns
  · simp [none]
  · simp [rows, format (by simp [rows])]
  · simp [columns, format (by simp [columns])]

/-- Padding never makes a stride too short: where it wraps, it wraps to zero, which stands for packed rows. -/
theorem resolveLeading (chosen : Chosen problem device descriptor) (operand : Operand) :
    ∃ stride, descriptor.resolveLeading operand = .ok stride := by
  have enough : descriptor.leading.get operand = 0 ∨
      descriptor.rowLength operand ≤ descriptor.leading.get operand := by
    rcases chosen.leading with packed | padded
    · rw [packed]
      cases operand <;> exact .inl rfl
    · obtain ⟨-, wideM⟩ := le_padded chosen.tiled.eightM
      obtain ⟨narrowM, -⟩ := le_padded chosen.tiled.eightM
      obtain ⟨narrowK, -⟩ := le_padded chosen.tiled.eightK
      rw [padded]
      simp only [Problem.paddedLeading, Descriptor.rowLength, chosen.transpose]
      cases operand with
      | a =>
        simp only [PerOperand.get]
        split
        · split
          · exact .inr narrowM
          · exact wideM
        · exact .inr (UInt16.le_refl _)
      | b =>
        simp only [PerOperand.get]
        split
        · split
          · exact .inr narrowK
          · exact .inr (UInt16.le_refl _)
        · exact .inr (UInt16.le_refl _)
      | c => exact .inr (UInt16.le_refl _)
  unfold Descriptor.resolveLeading
  rcases enough with packed | long
  · exact ⟨_, if_pos packed⟩
  · dsimp only
    split
    · exact ⟨_, rfl⟩
    · exact ⟨_, if_neg (UInt16.not_lt.mpr long)⟩

theorem splits_ne_zero (chosen : Chosen problem device descriptor) :
    descriptor.splits.m ≠ 0 ∧ descriptor.splits.n ≠ 0 := by
  rw [chosen.splits]
  split <;> decide

/-- One SIMD group takes any block of tiles, two by two need an even number of tiles in both directions. -/
theorem checkTiling_eq (chosen : Chosen problem device descriptor) :
    descriptor.checkTiling = if device.family.prefersAsyncCopy →
        16 ∣ descriptor.block.m.toNat ∧ 16 ∣ descriptor.block.n.toNat
      then .ok () else .error (.untiled descriptor.block descriptor.splits) := by
  have eightM := chosen.tiled.eightM
  have eightN := chosen.tiled.eightN
  have eightK := chosen.tiled.eightK
  unfold Descriptor.checkTiling
  rw [chosen.splits]
  by_cases older : device.family.prefersAsyncCopy
  · have two : (8 : UInt16) * 2 = 16 := rfl
    simp only [older, if_true, two, ← mod_sixteen_iff]
    by_cases rows : descriptor.block.m % 16 = 0
    · by_cases columns : descriptor.block.n % 16 = 0
      · simp [rows, columns, eightK]
      · simp [rows, columns]
    · simp [rows]
  · simp [older, eightM, eightN, eightK]

/-- A kernel is refused where its block does not divide into tiles. -/
theorem ofDescriptor_of_untiled (chosen : Chosen problem device descriptor) {defect : KernelDefect}
    (untiled : descriptor.checkTiling = .error defect) : Kernel.ofDescriptor descriptor = .error defect := by
  obtain ⟨splitsM, splitsN⟩ := chosen.splits_ne_zero
  simp [Kernel.ofDescriptor, chosen.tiled.m, chosen.tiled.n, chosen.tiled.k, splitsM, splitsN, untiled, bind,
    Except.bind]

/-- Beyond that only the memory of a threadgroup can stand in the way. -/
theorem ofDescriptor_of_tiled (chosen : Chosen problem device descriptor) (tiled : descriptor.checkTiling = .ok ()) :
    (∃ kernel, Kernel.ofDescriptor descriptor = .ok kernel) ∨
      ∃ needed, Kernel.ofDescriptor descriptor = .error (.memory needed) := by
  obtain ⟨splitsM, splitsN⟩ := chosen.splits_ne_zero
  obtain ⟨a, leadingA⟩ := chosen.resolveLeading .a
  obtain ⟨b, leadingB⟩ := chosen.resolveLeading .b
  obtain ⟨c, leadingC⟩ := chosen.resolveLeading .c
  unfold Kernel.ofDescriptor
  simp only [chosen.tiled.m, chosen.tiled.n, chosen.tiled.k, splitsM, splitsN, decide_false, Bool.or_false,
    Bool.false_eq_true, if_false, tiled, ok_bind, chosen.checkPair, chosen.accumulator, chosen.checkBias, leadingA,
    leadingB, leadingC]
  split
  · exact .inr ⟨_, rfl⟩
  · exact .inl ⟨_, rfl⟩

end Chosen

/-- A kernel chosen from validated tables is usable, or needs more memory than a threadgroup has, unless it is for one
    of the older generations and its block has an odd number of tiles in a direction. Then, and only then, it is
    refused for its division, which no finding of the tables announces. -/
theorem ofDescriptor_of_validate {tables : Tables} {problem : Problem} {device : Device} {descriptor : Descriptor}
    (valid : tables.validate = .ok ()) (made : problem.descriptor device tables = .ok descriptor) :
    ((device.family.prefersAsyncCopy → 16 ∣ descriptor.block.m.toNat ∧ 16 ∣ descriptor.block.n.toNat) →
      (∃ kernel, Kernel.ofDescriptor descriptor = .ok kernel) ∨
        ∃ defect, Kernel.ofDescriptor descriptor = .error defect ∧
          defect.failure.kind = .threadgroupMemoryExceeded) ∧
    (¬ (device.family.prefersAsyncCopy → 16 ∣ descriptor.block.m.toNat ∧ 16 ∣ descriptor.block.n.toNat) →
      ∃ defect, Kernel.ofDescriptor descriptor = .error defect ∧ defect.failure.kind = .invalidDescriptor) := by
  have chosen := chosen_of_descriptor (tiledBlocks_of_validate valid) made
  have tiling := chosen.checkTiling_eq
  constructor
  · intro even
    rw [if_pos even] at tiling
    rcases chosen.ofDescriptor_of_tiled tiling with accepted | ⟨needed, refused⟩
    · exact .inl accepted
    · exact .inr ⟨_, refused, rfl⟩
  · intro odd
    rw [if_neg odd] at tiling
    exact ⟨_, chosen.ofDescriptor_of_untiled tiling, rfl⟩

/-- A product of small matrices of single precision. -/
def squareProblem : Problem where
  extents := ⟨64, 64, 64⟩
  memory := ⟨.fp32, .fp32, .fp32⟩

/-- Its kernel on an older generation, with the small block of the tables. -/
def squareDescriptor (block : Block) : Descriptor where
  block
  memory := ⟨.fp32, .fp32, .fp32⟩
  register := ⟨.fp32, .fp32, .fp32⟩
  splits := ⟨2, 2⟩
  asyncLoad := true
  asyncStore := true

theorem ofDescriptor_builtIn : Tables.builtIn.validate = .ok () ∧
    squareProblem.descriptor { family := .apple7 } Tables.builtIn = .ok (squareDescriptor ⟨32, 32, 32⟩) ∧
      ((∃ kernel, Kernel.ofDescriptor (squareDescriptor ⟨32, 32, 32⟩) = .ok kernel) ∨
        ∃ defect, Kernel.ofDescriptor (squareDescriptor ⟨32, 32, 32⟩) = .error defect ∧
          defect.failure.kind = .threadgroupMemoryExceeded) := by
  have valid : Tables.builtIn.validate = .ok () := by decide +kernel
  have made : squareProblem.descriptor { family := .apple7 } Tables.builtIn = .ok (squareDescriptor ⟨32, 32, 32⟩) := rfl
  exact ⟨valid, made, (ofDescriptor_of_validate valid made).1 (by decide)⟩

/-- The built-in tables with a small block of one tile. -/
def oneTileTables : Tables :=
  { Tables.builtIn with gemm := { Tables.builtIn.gemm with
      blocks := { Tables.builtIn.gemm.blocks with small := ⟨8, 8, 8⟩ } } }

/-- Validated tables can lead to a kernel that is refused. -/
theorem ofDescriptor_oneTileTables : oneTileTables.validate = .ok () ∧
    squareProblem.descriptor { family := .apple7 } oneTileTables = .ok (squareDescriptor ⟨8, 8, 8⟩) ∧
      ∃ defect, Kernel.ofDescriptor (squareDescriptor ⟨8, 8, 8⟩) = .error defect ∧
        defect.failure.kind = .invalidDescriptor :=
  ⟨by decide +kernel, rfl, _, rfl, rfl⟩

end KernelForge.Gemm
