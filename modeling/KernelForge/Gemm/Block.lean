/-!
The rectangle of the product that one threadgroup computes, and the depth it takes from both factors at a
time.
-/

namespace KernelForge.Gemm

/-- Rows, columns and depth of the block of a threadgroup. -/
structure Block where
  m : UInt16
  n : UInt16
  k : UInt16
  deriving DecidableEq, Repr, Inhabited

/-- The wording of a block in messages. -/
def Block.display (block : Block) : String :=
  s!"\x7bM:{block.m.toNat} N:{block.n.toNat} K:{block.k.toNat}\x7d"

end KernelForge.Gemm
