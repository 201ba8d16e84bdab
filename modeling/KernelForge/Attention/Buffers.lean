import KernelForge.Attention.Kernel
import KernelForge.Cell

/-!
The buffers of attention. A matrix has a row for each place of its sequence and lies in its buffer row by
row, or with the head dimension first when it is transposed. The row terms are vectors along the output
sequence, and the stored derivative of the scores has rows with a stride of its own.
-/

namespace KernelForge.Attention

/-- How a matrix lies in its buffer. -/
structure Layout where
  length : Nat
  head : Nat
  transposed : Bool
  deriving DecidableEq, Repr

namespace Layout

/-- The place of an element of a sequence. -/
def position (layout : Layout) (index dimension : Nat) : Nat :=
  if layout.transposed then dimension * layout.length + index else index * layout.head + dimension

/-- The number of elements. -/
def size (layout : Layout) : Nat :=
  layout.length * layout.head

end Layout

namespace Problem

/-- The layout of an operand. Derivatives lie as their matrix does; what is no matrix is a vector along the
    output sequence. -/
def layout (problem : Problem) : Operand → Layout
  | .q | .dQ => ⟨problem.extents.row.toNat, problem.extents.head.toNat, problem.transpose.q⟩
  | .k | .dK => ⟨problem.extents.column.toNat, problem.extents.head.toNat, problem.transpose.k⟩
  | .v | .dV => ⟨problem.extents.column.toNat, problem.extents.head.toNat, problem.transpose.v⟩
  | .o | .dO => ⟨problem.extents.row.toNat, problem.extents.head.toNat, problem.transpose.o⟩
  | _ => ⟨problem.extents.row.toNat, 1, false⟩

/-- The number of elements of the buffer of an operand, in 64 bit arithmetic. -/
def bufferSize (problem : Problem) (operand : Operand) : Int64 :=
  if operand = .dST then
    Int64.ofNat problem.extents.row.toNat * Int64.ofNat problem.scoreStride.toNat
  else Int64.ofNat (problem.layout operand).size

end Problem

/-- A buffer for each operand. -/
structure Buffers (α : Type) where
  contents : Vector (Array α) 15

namespace Buffers

variable {α : Type}

/-- No buffer for any operand. -/
def empty : Buffers α := ⟨Vector.replicate 15 #[]⟩

instance : Inhabited (Buffers α) := ⟨empty⟩

/-- The buffer of an operand. -/
def get (buffers : Buffers α) (operand : Operand) : Array α :=
  buffers.contents.get operand.index

/-- The buffers with one exchanged. -/
def set (buffers : Buffers α) (operand : Operand) (content : Array α) : Buffers α :=
  ⟨buffers.contents.set operand.index.val content operand.index_lt⟩

/-- Buffers for the operands of a list, filled with a value. -/
def allocate (problem : Problem) (operands : List Operand) (fill : α) (buffers : Buffers α) : Buffers α :=
  operands.foldl (fun held operand =>
    held.set operand (Array.replicate (problem.bufferSize operand).toNatClampNeg fill)) buffers

/-- The buffers of several operands are long enough. -/
def check (buffers : Buffers α) (problem : Problem) (operands : List Operand) : Except Failure Unit :=
  let defects := operands.flatMap fun operand =>
    BufferDefect.check operand.name (buffers.get operand) (problem.bufferSize operand)
  if defects.isEmpty then .ok () else .error (BufferDefect.failure defects)

/-- A row of a matrix, as it is in the buffer. -/
def row (buffers : Buffers α) (problem : Problem) (operand : Operand) (index : Nat) :
    Except Failure (List α) :=
  let layout := problem.layout operand
  (List.range layout.head).mapM fun dimension =>
    readCell (buffers.get operand) (layout.position index dimension)

/-- All rows of a matrix. -/
def rows (buffers : Buffers α) (problem : Problem) (operand : Operand) : Except Failure (List (List α)) :=
  (List.range (problem.layout operand).length).mapM (buffers.row problem operand)

/-- The buffers with a row of a matrix written. -/
def setRow (buffers : Buffers α) (problem : Problem) (operand : Operand) (index : Nat) (values : List α) :
    Except Failure (Buffers α) := do
  let layout := problem.layout operand
  let content ← values.zipIdx.foldlM (fun held (value, dimension) =>
    writeCell held (layout.position index dimension) value) (buffers.get operand)
  return buffers.set operand content

/-- The buffers with one cell of an operand written. -/
def setCell (buffers : Buffers α) (operand : Operand) (index : Nat) (value : α) :
    Except Failure (Buffers α) := do
  return buffers.set operand (← writeCell (buffers.get operand) index value)

end Buffers

end KernelForge.Attention
