import KernelForge.Verification
import KernelForge.Proofs.Single
import KernelForge.Proofs.Gemm.Product

/-!
The product in single precision. On buffers as the emulation binds them, an accepted kernel returns, and every
element is bit for bit the recurrence of `productEntry`: the previous element in its formats and times its
factor, the bias, then the slices of eight in order, each added and rounded.
-/

namespace KernelForge.Gemm

/-- Every element of the product of a run is its recurrence, whatever the blocks and their edges. -/
theorem run_eq_recurrence (kernel : Kernel) (problem : Problem) (a b c bias : Array Float32)
    (admissible : (Launch.mk kernel problem (Verification.gemmBuffers problem a b c bias)).Admissible) :
    ∃ product, (Launch.mk kernel problem (Verification.gemmBuffers problem a b c bias)).run = .ok product ∧
      ∀ row < problem.extents.m.toNat, ∀ column < problem.extents.n.toNat,
        product[row * problem.strides.c.toNat + column]? =
          some ((Launch.mk kernel problem (Verification.gemmBuffers problem a b c bias)).productEntry row column) := by
  obtain ⟨product, ran, written⟩ := Launch.run_written admissible
  refine ⟨product, ran, ?_⟩
  intro row inRows column inColumns
  obtain ⟨value, found, correct⟩ := written.written _ ⟨row, inRows, column, inColumns, rfl⟩
  rw [← correct row inRows column inColumns rfl]
  exact found

/-- A descriptor with the smallest block and one SIMD group. -/
def smallDescriptor : Descriptor where
  block := ⟨8, 8, 8⟩
  memory := ⟨.fp16, .bf16, .fp32⟩
  register := ⟨.fp16, .fp32, .fp32⟩
  splits := ⟨1, 1⟩
  bias := ⟨.rows, .fp16⟩

/-- The kernel that `smallDescriptor` describes. -/
def smallKernel : Kernel where
  descriptor := smallDescriptor
  registerM := 8
  registerN := 8
  leading := ⟨8, 8, 8⟩
  threadgroupMemory := 256
  threadgroupSize := 32

/-- A problem one larger than the smallest block in every direction. -/
def oddProblem : Problem where
  extents := ⟨9, 9, 9⟩
  memory := ⟨.fp16, .bf16, .fp32⟩
  loadPreviousC := true
  beta := 3
  bias := ⟨.rows, .unset⟩

theorem run_eq_recurrence_odd :
    ∃ product, (Launch.mk smallKernel oddProblem (Verification.gemmBuffers oddProblem
        (Array.replicate 81 1) (Array.replicate 81 2) (Array.replicate 81 1) (Array.replicate 9 1))).run =
          .ok product ∧
      ∀ row < oddProblem.extents.m.toNat, ∀ column < oddProblem.extents.n.toNat,
        product[row * oddProblem.strides.c.toNat + column]? =
          some ((Launch.mk smallKernel oddProblem (Verification.gemmBuffers oddProblem
            (Array.replicate 81 1) (Array.replicate 81 2) (Array.replicate 81 1)
            (Array.replicate 9 1))).productEntry row column) := by
  refine run_eq_recurrence smallKernel oddProblem _ _ _ _ ?_
  exact {
    made := ⟨smallDescriptor, by decide +kernel⟩
    splits := by decide
    memory := rfl
    transpose := rfl
    biasAxis := rfl
    extents := by decide
    grid := by decide
    stride := by decide
    matrices := by rintro (_ | _ | _) <;> decide
    bias := by decide }

end KernelForge.Gemm
