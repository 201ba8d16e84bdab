import KernelForge.Proofs.Attention.Bracket
import KernelForge.Proofs.Shader.Margin

/-!
The programs of both kinds of kernels as parts of an archive: whatever the kernel, its text ends its last line and none
of its lines looks like a marker.
-/

namespace KernelForge

open Shader (Stmt Stmt.Dashless initial_append initial_literal)

/-- What stands in front of the constants of every kernel. -/
theorem Shader.dashless_opening :
    ∀ statement ∈ [Stmt.line "using namespace metal;", .blank], statement.Dashless := by
  simp only [List.forall_mem_cons, List.not_mem_nil, IsEmpty.forall_iff, implies_true]
  simp only [Stmt.Dashless]
  simp (disch := rfl) only [initial_literal]
  simp

namespace Gemm.Kernel

variable (kernel : Kernel)

theorem dashless_remainder {axis : String} (register : UInt16) : (remainder axis register).Dashless := by
  simp only [remainder, Stmt.Dashless, Text.toString_self, initial_append]
  simp (disch := rfl) only [initial_literal]
  simp

theorem dashless_constantLines : ∀ statement ∈ kernel.constantLines, statement.Dashless := by
  simp only [constantLines, List.forall_mem_cons, List.not_mem_nil, IsEmpty.forall_iff, implies_true, dashless_remainder]
  simp only [Stmt.Dashless, Text.toString_self, initial_append]
  simp (disch := rfl) only [initial_literal]
  simp

theorem dashless_tileLookup : ∀ statement ∈ tileLookup, statement.Dashless := by
  simp only [tileLookup, List.forall_mem_cons, List.not_mem_nil, IsEmpty.forall_iff, implies_true]
  simp only [Stmt.Dashless, initial_append]
  simp (disch := rfl) only [initial_literal]
  simp

theorem dashless_multiplyAccumulate (space : Shader.AddressSpace) :
    ∀ statement ∈ kernel.multiplyAccumulate space, statement.Dashless := by
  simp only [multiplyAccumulate, List.forall_mem_cons, List.not_mem_nil, IsEmpty.forall_iff, implies_true]
  simp only [Stmt.Dashless]
  simp (disch := rfl) only [initial_literal]
  simp

/-- The program of a matrix product. -/
theorem framed_source : Archive.Framed kernel.source := by
  refine Shader.framed_program kernel.effectAll_statements ?_
  have body : ∀ statement ∈ [Stmt.scope kernel.functionBody], statement.Dashless :=
    List.forall_mem_singleton.mpr trivial
  simp only [statements, List.forall_mem_append]
  exact ⟨⟨⟨⟨⟨⟨Shader.dashless_opening, kernel.dashless_constantLines⟩, dashless_tileLookup⟩,
    kernel.dashless_multiplyAccumulate .device⟩, kernel.dashless_multiplyAccumulate .threadgroup⟩,
      Shader.dashless_kernelHead _ _⟩, body⟩

end Gemm.Kernel

namespace Attention.Kernel

variable (kernel : Kernel)

theorem dashless_constantLines : ∀ statement ∈ kernel.constantLines, statement.Dashless := by
  have conditional (condition : Prop) [Decidable condition] {statements : List Stmt}
      (each : ∀ statement ∈ statements, statement.Dashless) :
      ∀ statement ∈ (if condition then statements else []), statement.Dashless := by
    split
    · exact each
    · exact List.forall_mem_nil _
  simp only [constantLines, List.flatten_cons, List.flatten_nil, List.append_nil, List.forall_mem_append]
  refine ⟨?_, conditional _ ?_, conditional _ ?_⟩
  all_goals
    simp only [List.forall_mem_cons, List.not_mem_nil, IsEmpty.forall_iff, implies_true]
    simp only [Stmt.Dashless, Text.toString_self, initial_append]
    simp (disch := rfl) only [initial_literal]
    simp

/-- The program of an attention kernel. -/
theorem framed_source : Archive.Framed kernel.source := by
  refine Shader.framed_program kernel.effectAll_statements ?_
  have body : ∀ statement ∈ [Stmt.scope kernel.functionBody], statement.Dashless :=
    List.forall_mem_singleton.mpr trivial
  simp only [statements, List.forall_mem_append]
  exact ⟨⟨⟨Shader.dashless_opening, kernel.dashless_constantLines⟩, Shader.dashless_kernelHead _ _⟩, body⟩

end Attention.Kernel

end KernelForge
