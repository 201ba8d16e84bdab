import KernelForge.Proofs.Attention.Emission
import KernelForge.Proofs.Gemm.Heuristic
import KernelForge.Proofs.Gemm.Outline

/-!
The threadgroups of a dispatch. Their number is meant to be the least that covers the problem, and it is as long as an
extent and the block along it add up to no more than 2³². Beyond that the addition before the division wraps, and what
is left is smaller than a block: there are no threadgroups at all, and nothing is computed.
-/

namespace KernelForge

/-- A number of pieces of a size that cover an extent, none of which can be left out. -/
def LeastCover (pieces size extent : Nat) : Prop :=
  ((pieces : Int) - 1) * size < extent ∧ extent ≤ pieces * size

namespace Gemm

theorem leastCover_ceilDiv {extent size : UInt32} (positive : 0 < size.toNat) (some : extent ≠ 0)
    (fits : extent.toNat + size.toNat ≤ 2 ^ 32) :
    LeastCover (ceilDiv extent size).toNat size.toNat extent.toNat := by
  have covers : extent.toNat ≤ (ceilDiv extent size).toNat * size.toNat := by
    rw [Launch.ceilDiv_toNat positive fits]
    exact Launch.le_stepCount_mul positive
  have occupied : 0 < extent.toNat := by
    rw [Nat.pos_iff_ne_zero]
    exact fun zero => some (UInt32.toNat_inj.mp (by simpa using zero))
  have first : 0 < (ceilDiv extent size).toNat := Nat.pos_of_mul_pos_right (Nat.lt_of_lt_of_le occupied covers)
  have last : ((ceilDiv extent size).toNat - 1) * size.toNat < extent.toNat :=
    mul_lt_of_lt_ceilDiv positive (Nat.sub_lt first Nat.one_pos)
  have before : (((ceilDiv extent size).toNat - 1 : Nat) : Int) = ((ceilDiv extent size).toNat : Int) - 1 := by omega
  refine ⟨?_, covers⟩
  rw [← before]
  exact_mod_cast last

/-- The number of threadgroups along an extent: the least that covers it, or none where the addition wraps. -/
def CoveredBy (pieces size extent : UInt32) : Prop :=
  (extent.toNat + size.toNat ≤ 2 ^ 32 → LeastCover pieces.toNat size.toNat extent.toNat) ∧
    (2 ^ 32 < extent.toNat + size.toNat → pieces = 0)

theorem coveredBy_ceilDiv {extent size : UInt32} (positive : 0 < size.toNat) (some : extent ≠ 0) :
    CoveredBy (ceilDiv extent size) size extent :=
  ⟨leastCover_ceilDiv positive some, fun wraps => UInt32.toNat_inj.mp (ceilDiv_of_wrapped wraps)⟩

/-- The grid of a kernel covers the columns and the rows of a product. -/
theorem coveredBy_grid {descriptor : Descriptor} {kernel : Kernel} (made : Kernel.ofDescriptor descriptor = .ok kernel)
    {extents : Extents} (rows : extents.m ≠ 0) (columns : extents.n ≠ 0) :
    CoveredBy (kernel.grid extents).1 descriptor.block.n.toUInt32 extents.n ∧
      CoveredBy (kernel.grid extents).2 descriptor.block.m.toUInt32 extents.m := by
  have accepted := accepted_of_ofDescriptor made
  rw [Kernel.grid, accepted.descriptor_eq]
  constructor
  · exact coveredBy_ceilDiv (by simpa using toNat_pos_of_ne_zero accepted.block.2.1) columns
  · exact coveredBy_ceilDiv (by simpa using toNat_pos_of_ne_zero accepted.block.1) rows

end Gemm

/-- The length of the sequence that the threadgroups of a pass divide among them. -/
def Attention.Descriptor.dividedLength (descriptor : Attention.Descriptor) (extents : Attention.Extents) : UInt32 :=
  if descriptor.type.pass = .backwardKeyValue then extents.column else extents.row

/-- The grid of a pass covers the sequence that its threadgroups divide. -/
theorem Attention.coveredBy_grid {descriptor : Descriptor} {kernel : Kernel}
    (made : Kernel.ofDescriptor descriptor = .ok kernel) {extents : Extents} (rows : extents.row ≠ 0)
    (columns : extents.column ≠ 0) :
    Gemm.CoveredBy (kernel.grid extents) descriptor.block.parallelization.toUInt32
      (descriptor.dividedLength extents) := by
  obtain ⟨-, parallelization, -, -, same, -⟩ := made_of_ofDescriptor made
  have positive : 0 < descriptor.block.parallelization.toUInt32.toNat := by
    simpa using Gemm.toNat_pos_of_ne_zero parallelization
  have some : descriptor.dividedLength extents ≠ 0 := by
    unfold Descriptor.dividedLength
    split
    · exact columns
    · exact rows
  rw [Kernel.grid, same]
  exact Gemm.coveredBy_ceilDiv positive some

/-- The grid of every kernel covers every problem with the fewest threadgroups, in each direction in which an extent and
    the block add up to no more than 2³²; in the others it is empty. -/
theorem grid_covers (product : Gemm.Descriptor) (descriptor : Attention.Descriptor) :
    (∀ kernel, Gemm.Kernel.ofDescriptor product = .ok kernel →
      ∀ extents : Gemm.Extents, extents.m ≠ 0 → extents.n ≠ 0 →
        Gemm.CoveredBy (kernel.grid extents).1 product.block.n.toUInt32 extents.n ∧
          Gemm.CoveredBy (kernel.grid extents).2 product.block.m.toUInt32 extents.m) ∧
    ∀ kernel, Attention.Kernel.ofDescriptor descriptor = .ok kernel →
      ∀ extents : Attention.Extents, extents.row ≠ 0 → extents.column ≠ 0 →
        Gemm.CoveredBy (kernel.grid extents) descriptor.block.parallelization.toUInt32
          (descriptor.dividedLength extents) :=
  ⟨fun _ made _ rows columns => Gemm.coveredBy_grid made rows columns,
    fun _ made _ rows columns => Attention.coveredBy_grid made rows columns⟩

/-- The longest product that blocks of 32 rows cover, and the longest sequence that blocks of 16 rows do. -/
theorem grid_covers_longest :
    (∃ kernel, Gemm.Kernel.ofDescriptor (Gemm.squareDescriptor ⟨32, 32, 32⟩) = .ok kernel ∧
      LeastCover (kernel.grid ⟨4294967264, 33, 1⟩).1.toNat 32 33 ∧
        LeastCover (kernel.grid ⟨4294967264, 33, 1⟩).2.toNat 32 4294967264) ∧
    ∃ kernel, Attention.Kernel.ofDescriptor Attention.singleForward = .ok kernel ∧
      LeastCover (kernel.grid ⟨4294967280, 1, 64⟩).toNat 16 4294967280 := by
  obtain ⟨kernel, made⟩ : ∃ kernel, Gemm.Kernel.ofDescriptor (Gemm.squareDescriptor ⟨32, 32, 32⟩) = .ok kernel :=
    ⟨_, rfl⟩
  obtain ⟨other, accepted⟩ : ∃ kernel, Attention.Kernel.ofDescriptor Attention.singleForward = .ok kernel := ⟨_, rfl⟩
  obtain ⟨products, passes⟩ := grid_covers (Gemm.squareDescriptor ⟨32, 32, 32⟩) Attention.singleForward
  obtain ⟨columns, rows⟩ := products kernel made ⟨4294967264, 33, 1⟩ (by decide) (by decide)
  have row := passes other accepted ⟨4294967280, 1, 64⟩ (by decide) (by decide)
  exact ⟨⟨kernel, made, columns.1 (by decide), rows.1 (by decide)⟩, other, accepted, row.1 (by decide)⟩

/-- A product with the longest rows has no threadgroups along them. -/
theorem grid_wraps : ∃ kernel, Gemm.Kernel.ofDescriptor (Gemm.squareDescriptor ⟨32, 32, 32⟩) = .ok kernel ∧
    (kernel.grid ⟨1, 4294967295, 1⟩).1 = 0 ∧ ¬ LeastCover (kernel.grid ⟨1, 4294967295, 1⟩).1.toNat 32 4294967295 := by
  refine ⟨_, rfl, rfl, ?_⟩
  rintro ⟨-, covers⟩
  exact absurd covers (by decide)

end KernelForge
