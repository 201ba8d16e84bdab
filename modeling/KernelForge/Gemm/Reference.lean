import KernelForge.Arithmetic
import KernelForge.Gemm.Buffers

/-!
The matrix product by its definition: every element is the sum of the products along the depth, then the
previous element times its factor, then the bias. There are no blocks and no rounding in between.
-/

namespace KernelForge.Gemm

variable {α : Type} [Scalar α]

/-- The bias of an element; no bias adds nothing. -/
def addBias (problem : Problem) (bias : Array α) (row column : Nat) (value : α) : Except Failure α :=
  if problem.bias.axis = .rows then return value + (← readCell bias row)
  else if problem.bias.axis = .columns then return value + (← readCell bias column)
  else return value

/-- The previous product of an element, times its factor, if it is used. -/
def addPrevious (problem : Problem) (buffers : Buffers α) (row column : Nat) (value : α) :
    Except Failure α :=
  if problem.loadPreviousC then
    return value + buffers.scale * (← readCell buffers.c (problem.position .c row column))
  else return value

/-- One element of the product. -/
def element (problem : Problem) (buffers : Buffers α) (row column : Nat) : Except Failure α := do
  let product ← countUp (fun held depth => do
    let left ← readCell buffers.a (problem.position .a row depth)
    let right ← readCell buffers.b (problem.position .b depth column)
    return held + left * right) problem.extents.k.toNat 0 Scalar.zero
  let sum ← addPrevious problem buffers row column product
  addBias problem buffers.bias row column sum

/-- The product, packed row by row. -/
def multiply (problem : Problem) (buffers : Buffers α) : Except Failure (Array α) := do
  problem.checkBuffers buffers problem.loadPreviousC
  let columns := problem.extents.n.toNat
  countUp (fun rows row =>
    countUp (fun held column => do
      return held.push (← element problem buffers row column)) columns 0 rows)
    problem.extents.m.toNat 0 #[]

end KernelForge.Gemm
