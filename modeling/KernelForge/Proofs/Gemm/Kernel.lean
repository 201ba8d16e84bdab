import KernelForge.Proofs.Cell
import KernelForge.Gemm.Emulation

/-!
What a descriptor that was accepted guarantees. The checks run in 16 bit arithmetic; as long as eight times
each split stays below the width, they are the divisibilities they look like, the tiles of the SIMD groups
fill the block exactly, and the staging blocks fit the memory that is reserved for them.
-/

namespace KernelForge.Gemm

/-- What was checked before a kernel was made, and how its quantities were derived. -/
structure Accepted (descriptor : Descriptor) (kernel : Kernel) : Prop where
  descriptor_eq : kernel.descriptor = descriptor
  block : descriptor.block.m ≠ 0 ∧ descriptor.block.n ≠ 0 ∧ descriptor.block.k ≠ 0
  splits : descriptor.splits.m ≠ 0 ∧ descriptor.splits.n ≠ 0
  tiling : descriptor.checkTiling = .ok ()
  pair : ∀ operand, descriptor.checkPair operand = .ok ()
  accumulator : descriptor.register.c ≠ .bf16
  bias : descriptor.checkBias = .ok ()
  leading : ∀ operand, descriptor.resolveLeading operand = .ok (kernel.leading.get operand)
  fits : max (kernel.blockBytes .a + kernel.blockBytes .b) (kernel.blockBytes .c) ≤ maxThreadgroupMemory
  registerM : kernel.registerM = descriptor.block.m / descriptor.splits.m
  registerN : kernel.registerN = descriptor.block.n / descriptor.splits.n
  threadgroupMemory : kernel.threadgroupMemory =
    UInt16.ofNat (max (kernel.blockBytes .a + kernel.blockBytes .b) (kernel.blockBytes .c))
  threadgroupSize : kernel.threadgroupSize = 32 * descriptor.splits.m * descriptor.splits.n

theorem accepted_of_ofDescriptor {descriptor : Descriptor} {kernel : Kernel}
    (made : Kernel.ofDescriptor descriptor = .ok kernel) : Accepted descriptor kernel := by
  unfold Kernel.ofDescriptor at made
  simp only [refuse_ok_iff, bind_ok_iff, Bool.or_eq_true, decide_eq_true_eq, not_or, Nat.not_lt, gt_iff_lt, pure,
    Except.pure, Except.ok.injEq] at made
  obtain ⟨⟨⟨blockM, blockN⟩, blockK⟩, splits, _, tiling, _, pairA, _, pairB, _, pairC, accumulator, _, bias,
    a, leadingA, b, leadingB, c, leadingC, fits, rfl⟩ := made
  exact {
    descriptor_eq := rfl
    block := ⟨blockM, blockN, blockK⟩
    splits
    tiling
    pair := by rintro (_ | _ | _) <;> assumption
    accumulator
    bias
    leading := by rintro (_ | _ | _) <;> assumption
    fits
    registerM := rfl
    registerN := rfl
    threadgroupMemory := rfl
    threadgroupSize := rfl }

/-- A divisor that was computed in 16 bits without wrapping divides a block into whole tiles. -/
theorem tile_mul_split {block split : UInt16} (narrow : split.toNat < 8192) (some : split ≠ 0)
    (divides : block % (8 * split) = 0) : (block / split).toNat * split.toNat = block.toNat := by
  have positive : 0 < split.toNat := by
    rw [Nat.pos_iff_ne_zero]
    exact fun zero => some (UInt16.toNat_inj.mp (by simpa using zero))
  have product : (8 * split).toNat = 8 * split.toNat := by
    rw [UInt16.toNat_mul]
    exact Nat.mod_eq_of_lt (by simp; omega)
  have remainder : block.toNat % (8 * split.toNat) = 0 := by
    rw [← product, ← UInt16.toNat_mod, divides]
    rfl
  rw [UInt16.toNat_div]
  exact Nat.div_mul_cancel (Nat.dvd_trans (Nat.dvd_mul_left _ 8) (Nat.dvd_of_mod_eq_zero remainder))

/-- A kernel whose tiles fill its block, whose staged rows fit their strides, and whose staging blocks fit the
    memory reserved for them. -/
structure Regular (kernel : Kernel) : Prop where
  tiles_m : kernel.registerM.toNat * kernel.descriptor.splits.m.toNat = kernel.descriptor.block.m.toNat
  tiles_n : kernel.registerN.toNat * kernel.descriptor.splits.n.toNat = kernel.descriptor.block.n.toNat
  block_m : 0 < kernel.descriptor.block.m.toNat
  block_n : 0 < kernel.descriptor.block.n.toNat
  block_k : 0 < kernel.descriptor.block.k.toNat
  depth : 8 ∣ kernel.descriptor.block.k.toNat
  rowLength : ∀ operand,
    (kernel.descriptor.rowLength operand).toNat ≤ (kernel.leading.get operand).toNat
  memory : max (kernel.blockBytes .a + kernel.blockBytes .b) (kernel.blockBytes .c) ≤
    kernel.threadgroupMemory.toNat
  bias : kernel.descriptor.bias.axis = .none ∨ kernel.descriptor.bias.axis = .rows ∨
    kernel.descriptor.bias.axis = .columns

theorem Accepted.tiled {descriptor : Descriptor} {kernel : Kernel} (accepted : Accepted descriptor kernel) :
    descriptor.block.m % (8 * descriptor.splits.m) = 0 ∧ descriptor.block.n % (8 * descriptor.splits.n) = 0 ∧
      descriptor.block.k % 8 = 0 := by
  have tiling := accepted.tiling
  unfold Descriptor.checkTiling at tiling
  grind

theorem Accepted.rowLength_le {descriptor : Descriptor} {kernel : Kernel}
    (accepted : Accepted descriptor kernel) (operand : Operand) :
    (descriptor.rowLength operand).toNat ≤ (kernel.leading.get operand).toNat := by
  have resolved := accepted.leading operand
  simp only [Descriptor.resolveLeading] at resolved
  split at resolved
  · exact Nat.le_of_eq (congrArg UInt16.toNat (Except.ok.inj resolved))
  · split at resolved
    · cases resolved
    · rename_i enough
      exact Except.ok.inj resolved ▸ Nat.not_lt.mp enough

theorem toNat_pos_of_ne_zero {value : UInt16} (some : value ≠ 0) : 0 < value.toNat := by
  rw [Nat.pos_iff_ne_zero]
  exact fun zero => some (UInt16.toNat_inj.mp (by simpa using zero))

theorem Accepted.depth_dvd {descriptor : Descriptor} {kernel : Kernel} (accepted : Accepted descriptor kernel) :
    8 ∣ descriptor.block.k.toNat := by
  apply Nat.dvd_of_mod_eq_zero
  simpa [← UInt16.toNat_inj] using accepted.tiled.2.2

theorem Accepted.memory_le {descriptor : Descriptor} {kernel : Kernel} (accepted : Accepted descriptor kernel) :
    max (kernel.blockBytes .a + kernel.blockBytes .b) (kernel.blockBytes .c) ≤ kernel.threadgroupMemory.toNat := by
  have small : maxThreadgroupMemory < UInt16.size := by decide
  have kept := UInt16.toNat_ofNat_of_lt' (Nat.lt_of_le_of_lt accepted.fits small)
  exact Nat.le_of_eq (by rw [accepted.threadgroupMemory, kept])

theorem Accepted.bias_cases {descriptor : Descriptor} {kernel : Kernel} (accepted : Accepted descriptor kernel) :
    descriptor.bias.axis = .none ∨ descriptor.bias.axis = .rows ∨ descriptor.bias.axis = .columns := by
  have bias := accepted.bias
  unfold Descriptor.checkBias at bias
  grind

theorem Accepted.regular {descriptor : Descriptor} {kernel : Kernel} (accepted : Accepted descriptor kernel)
    (narrowM : descriptor.splits.m.toNat < 8192) (narrowN : descriptor.splits.n.toNat < 8192) :
    Regular kernel := by
  obtain ⟨rows, columns, -⟩ := accepted.tiled
  have same := accepted.descriptor_eq
  exact {
    tiles_m := by rw [accepted.registerM, same]; exact tile_mul_split narrowM accepted.splits.1 rows
    tiles_n := by rw [accepted.registerN, same]; exact tile_mul_split narrowN accepted.splits.2 columns
    block_m := same ▸ toNat_pos_of_ne_zero accepted.block.1
    block_n := same ▸ toNat_pos_of_ne_zero accepted.block.2.1
    block_k := same ▸ toNat_pos_of_ne_zero accepted.block.2.2
    depth := same ▸ accepted.depth_dvd
    rowLength := by rw [same]; exact accepted.rowLength_le
    memory := accepted.memory_le
    bias := same ▸ accepted.bias_cases }

end KernelForge.Gemm
