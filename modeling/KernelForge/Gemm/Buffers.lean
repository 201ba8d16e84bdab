import KernelForge.Gemm.Kernel
import KernelForge.Cell

/-!
The buffers of a matrix product and the check that they are long enough. A matrix lies in its buffer row by
row with a stride; its last row needs no more than its own length. Sizes are computed in 64 bits.
-/

namespace KernelForge.Gemm

/-- The buffers of a product and the factor of the previous product. -/
structure Buffers (α : Type) where
  a : Array α
  b : Array α
  c : Array α
  bias : Array α
  scale : α

/-- The buffer of a matrix. -/
def Buffers.get {α : Type} (buffers : Buffers α) : Operand → Array α
  | .a => buffers.a
  | .b => buffers.b
  | .c => buffers.c

/-- The number of elements from the first to the last of a matrix with a stride, in 64 bit arithmetic. -/
def span (rows columns stride : UInt32) : Int64 :=
  if rows = 0 || columns = 0 then 0
  else (Int64.ofNat rows.toNat - 1) * Int64.ofNat stride.toNat + Int64.ofNat columns.toNat

/-- A rectangle of stored elements. -/
structure Shape where
  rows : UInt32
  columns : UInt32
  deriving DecidableEq, Repr

namespace Problem

/-- The matrix as the product sees it. -/
def shape (problem : Problem) : Operand → Shape
  | .a => ⟨problem.extents.m, problem.extents.k⟩
  | .b => ⟨problem.extents.k, problem.extents.n⟩
  | .c => ⟨problem.extents.m, problem.extents.n⟩

/-- The matrix as it is stored. -/
def storedShape (problem : Problem) (operand : Operand) : Shape :=
  let shape := problem.shape operand
  if problem.transpose.get operand then ⟨shape.columns, shape.rows⟩ else shape

/-- The number of elements that the buffer of a matrix must have. -/
def bufferSize (problem : Problem) (operand : Operand) : Int64 :=
  let stored := problem.storedShape operand
  span stored.rows stored.columns (problem.strides.get operand)

/-- The number of elements of the bias. -/
def biasSize (problem : Problem) : UInt32 :=
  if problem.bias.axis = .rows then problem.extents.m
  else if problem.bias.axis = .columns then problem.extents.n
  else 0

/-- The place of an element of a matrix in its buffer. -/
def position (problem : Problem) (operand : Operand) (row column : Nat) : Nat :=
  let stride := (problem.strides.get operand).toNat
  if problem.transpose.get operand then column * stride + row else row * stride + column

/-- All buffers are long enough. The previous product is looked at only if it is used. -/
def checkBuffers {α : Type} (problem : Problem) (buffers : Buffers α) (needsProduct : Bool) :
    Except Failure Unit :=
  let matrices : List Operand := if needsProduct then [.a, .b, .c] else [.a, .b]
  let defects :=
    (matrices.flatMap fun operand =>
      BufferDefect.check operand.name (buffers.get operand) (problem.bufferSize operand)) ++
    BufferDefect.check "bias" buffers.bias (Int64.ofNat problem.biasSize.toNat)
  if defects.isEmpty then .ok () else .error (BufferDefect.failure defects)

end Problem

end KernelForge.Gemm
