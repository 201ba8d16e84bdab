import KernelForge.Attention.Kernel
import KernelForge.Text.Decimal

/-!
The names, strides and factors that all parts of an attention kernel's text share.
-/

namespace KernelForge.Attention

/-- The name of the sequence length that bounds an operand. -/
def sequenceName (operand : Operand) : String :=
  if operand.isRowIndexed then "R" else "C"

/-- The first row of a threadgroup. -/
def groupOffset : String := "parallelization_group_offset"

/-- The row of a thread. -/
def threadOffset : String := "(parallelization_group_offset + sidx * 8 + morton_offset.y)"

namespace Kernel

/-- Whether threadgroups divide the columns among them. -/
def byColumns (kernel : Kernel) : Bool :=
  kernel.descriptor.type.pass = .backwardKeyValue

/-- The length of the sequence that threadgroups divide. -/
def parallelName (kernel : Kernel) : String :=
  if kernel.byColumns then "C" else "R"

/-- The length of the sequence that a threadgroup traverses. -/
def traversalName (kernel : Kernel) : String :=
  if kernel.byColumns then "R" else "C"

/-- The position in the traversal. -/
def traversalIndex (kernel : Kernel) : String :=
  if kernel.byColumns then "r" else "c"

/-- The row of a thread, kept inside of the sequence. What threads beyond its end compute is not stored. -/
def clampedOffset (kernel : Kernel) : String :=
  s!"min({threadOffset}, {kernel.parallelName} - 1)"

/-- The last part of the head dimension, filled up to a tile. -/
def paddedHeadEdge (kernel : Kernel) : UInt16 :=
  let block := kernel.descriptor.block.head
  let rest := kernel.descriptor.head % block
  Attention.paddedHead (if rest = 0 then block else rest)

/-- A factor as a literal: nine digits of the nearest single precision number. -/
def literal (value : Float) : String :=
  Text.general 9 value.toFloat32.toFloat

/-- The factor of the scores, for exponentials in base two: `log₂ e / √D`. -/
def forwardScale (kernel : Kernel) : String :=
  literal (1.4426950408889634 / (Float.ofNat kernel.descriptor.head.toNat).sqrt)

/-- The factor of the derivative of the scores: `1 / √D`. -/
def backwardScale (kernel : Kernel) : String :=
  literal (1 / (Float.ofNat kernel.descriptor.head.toNat).sqrt)

/-- The scalar type of an operand in memory. -/
def memoryName (kernel : Kernel) (operand : Operand) : String :=
  (kernel.memory operand).scalarName

/-- The scalar type of an operand in registers. -/
def registerName (kernel : Kernel) (operand : Operand) : String :=
  (kernel.register operand).scalarName

/-- The row stride of an operand in device memory. -/
def stride (kernel : Kernel) (operand : Operand) : String :=
  if kernel.isTransposed operand then sequenceName operand else s!"{kernel.descriptor.head}"

/-- The row stride of a block of an operand in threadgroup memory. -/
def blockStride (kernel : Kernel) (operand : Operand) : UInt16 :=
  if kernel.isTransposed operand then kernel.descriptor.blockSequence operand
  else kernel.descriptor.block.head

/-- Whether an operand is transposed, as a literal. -/
def transposedName (kernel : Kernel) (operand : Operand) : String :=
  Shader.boolean (kernel.isTransposed operand)

/-- Whether an operand is not transposed, as a literal. -/
def untransposedName (kernel : Kernel) (operand : Operand) : String :=
  Shader.boolean (!kernel.isTransposed operand)

/-- The member that loads a tile of an operand. -/
def loadName (kernel : Kernel) (operand : Operand) : String :=
  Precision.loadFunction (kernel.memory operand) (kernel.register operand)

/-- The member that stores a tile of an operand. -/
def storeName (kernel : Kernel) (operand : Operand) : String :=
  Precision.storeFunction (kernel.memory operand) (kernel.register operand)

/-- The declaration of register tiles of an operand. -/
def tiles (kernel : Kernel) (operand : Operand) (count : UInt16) : Shader.Stmt :=
  .line s!"simdgroup_matrix_storage<{kernel.registerName operand}> {operand.name}_sram[{count}];"

/-- A pointer into an operand. -/
def pointer (kernel : Kernel) (operand : Operand) (target matrix stride offset trans : String) :
    Shader.Stmt :=
  .line (s!"{target} = simdgroup_matrix_storage<{kernel.memoryName operand}>::apply_offset({matrix}, " ++
    s!"{stride}, {offset}, {trans});")

/-- The block of an operand in threadgroup memory. -/
def blockPointer (kernel : Kernel) (operand : Operand) : Shader.Stmt :=
  .line s!"auto {operand.name}_block = (threadgroup {kernel.memoryName operand}*)(threadgroup_block);"

/-- An unrolled loop over tiles between two bounds. -/
def tilesFrom (index start stop : String) (body : List Shader.Stmt) : Shader.Stmt :=
  .loop .full s!"ushort {index} = {start}; {index} < {stop}; {index} += 8" body

/-- A loop over the blocks of the head dimension. -/
def headBlocks (kernel : Kernel) (unroll : Shader.Unroll) (stop : UInt16) (body : List Shader.Stmt) :
    Shader.Stmt :=
  .loop unroll s!"ushort d_outer = 0; d_outer < {stop}; d_outer += {kernel.descriptor.block.head}" body

/-- A loop over the tiles of the traversal. -/
def traversalTiles (kernel : Kernel) (body : List Shader.Stmt) : Shader.Stmt :=
  Shader.tileLoop "c" kernel.descriptor.block.traversal body

end Kernel

end KernelForge.Attention
