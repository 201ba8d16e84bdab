import KernelForge.Device
import KernelForge.Gemm.Block
import KernelForge.Gemm.Problem

/-!
A kernel for matrix products. A descriptor says everything that the text of the kernel depends on; a kernel
is a descriptor that was checked, with the quantities that follow from it: the tile of one SIMD group, the
strides of the staging blocks and the resources of a threadgroup.
-/

namespace KernelForge.Gemm

/-- How the block of a threadgroup is divided among SIMD groups. -/
structure Splits where
  m : UInt16
  n : UInt16
  deriving DecidableEq, Repr, Inhabited

/-- The wording of splits in messages. -/
def Splits.display (splits : Splits) : String :=
  s!"\x7bM:{splits.m} N:{splits.n}\x7d"

/-- Everything that the text of a kernel depends on. -/
structure Descriptor where
  block : Block
  /-- Row strides of the staging blocks; zero stands for packed rows. -/
  leading : PerOperand UInt16 := ⟨0, 0, 0⟩
  memory : PerOperand Precision
  register : PerOperand Precision
  splits : Splits
  transpose : Transpose := {}
  /-- Every step of the depth goes through threadgroup memory. -/
  asyncLoad : Bool := false
  /-- The product always leaves through threadgroup memory. -/
  asyncStore : Bool := false
  bias : Bias := {}
  deriving DecidableEq, Repr, Inhabited

/-- A truth value in a key. -/
def keyFlag (value : Bool) : String :=
  if value then "T" else "F"

/-- A text that two descriptors share only if they describe the same program. Strides and bias stand in it
    only when there are any. -/
def Descriptor.key (descriptor : Descriptor) : String :=
  let block := descriptor.block
  let leading := descriptor.leading
  let memory := descriptor.memory
  let register := descriptor.register
  s!"gemm-{block.m}x{block.n}x{block.k}" ++
    (if leading = ⟨0, 0, 0⟩ then "" else s!"-ld{leading.a}.{leading.b}.{leading.c}") ++
    s!"-mem{memory.a.name}.{memory.b.name}.{memory.c.name}" ++
    s!"-reg{register.a.name}.{register.b.name}.{register.c.name}" ++
    s!"-s{descriptor.splits.m}x{descriptor.splits.n}" ++
    s!"-t{keyFlag descriptor.transpose.a}{keyFlag descriptor.transpose.b}" ++
    s!"-async{keyFlag descriptor.asyncLoad}{keyFlag descriptor.asyncStore}" ++
    (if descriptor.bias.axis = .none then ""
      else s!"-bias{descriptor.bias.axis.name}.{descriptor.bias.precision.name}")

/-- Why a descriptor is refused. -/
inductive KernelDefect
  | blockUnset (block : Block)
  | splitsUnset (splits : Splits)
  /-- The number of rows or columns that must divide the block wraps to zero. -/
  | divisionByZero
  | untiled (block : Block) (splits : Splits)
  | pair (operand : Operand) (defect : PairDefect)
  | narrowAccumulator
  | biasPrecisionUnset
  | unknownBiasAxis (axis : BiasAxis)
  | shortLeading (operand : Operand) (given needed : UInt16)
  | memory (needed : Nat)
  deriving DecidableEq, Repr

/-- The failure that a defect is reported as. -/
def KernelDefect.failure : KernelDefect → Failure
  | .blockUnset block => .of .descriptorIncomplete s!"block dimensions {block.display}"
  | .splitsUnset splits => .of .descriptorIncomplete s!"splits {splits.display}"
  | .divisionByZero => .divisionByZero
  | .untiled block splits =>
    .of .invalidDescriptor
      (s!"block {block.m}x{block.n}x{block.k} does not tile into 8x8 simdgroup matrices " ++
        s!"with splits {splits.m}x{splits.n}")
  | .pair operand defect => defect.failure.within s!"operand {operand.name}"
  | .narrowAccumulator =>
    (Failure.of .invalidPrecisionPair s!"accumulator cannot be {Precision.bf16.name}").within "operand C"
  | .biasPrecisionUnset => .of .descriptorIncomplete "bias precision"
  | .unknownBiasAxis axis => .of .invalidDescriptor axis.name
  | .shortLeading operand given needed =>
    .of .invalidDescriptor
      s!"leading block dimension of {operand.name} is {given}, need at least {needed}"
  | .memory needed =>
    .of .threadgroupMemoryExceeded s!"{needed} bytes needed, {maxThreadgroupMemory} available"

namespace Descriptor

/-- The length of a stored row of a block. -/
def rowLength (descriptor : Descriptor) : Operand → UInt16
  | .a => if descriptor.transpose.a then descriptor.block.m else descriptor.block.k
  | .b => if descriptor.transpose.b then descriptor.block.k else descriptor.block.n
  | .c => descriptor.block.n

/-- The number of stored rows of a block. -/
def rowCount (descriptor : Descriptor) : Operand → UInt16
  | .a => if descriptor.transpose.a then descriptor.block.k else descriptor.block.m
  | .b => if descriptor.transpose.b then descriptor.block.n else descriptor.block.k
  | .c => descriptor.block.m

/-- The block divides into the tiles of the SIMD groups. The products wrap at 16 bits, and a product of zero
    divides nothing. -/
def checkTiling (descriptor : Descriptor) : Except KernelDefect Unit :=
  let block := descriptor.block
  let splits := descriptor.splits
  if 8 * splits.m = 0 then .error .divisionByZero
  else if block.m % (8 * splits.m) ≠ 0 then .error (.untiled block splits)
  else if 8 * splits.n = 0 then .error .divisionByZero
  else if block.n % (8 * splits.n) ≠ 0 || block.k % 8 ≠ 0 then .error (.untiled block splits)
  else .ok ()

/-- The formats of one matrix fit together. -/
def checkPair (descriptor : Descriptor) (operand : Operand) : Except KernelDefect Unit :=
  (Precision.checkPair (descriptor.memory.get operand) (descriptor.register.get operand)).mapError
    (.pair operand)

/-- The bias has a known axis and, if there is one, a format. -/
def checkBias (descriptor : Descriptor) : Except KernelDefect Unit :=
  if descriptor.bias.axis = .none then .ok ()
  else if descriptor.bias.axis = .rows || descriptor.bias.axis = .columns then
    if descriptor.bias.precision.isValid then .ok () else .error .biasPrecisionUnset
  else .error (.unknownBiasAxis descriptor.bias.axis)

/-- The stride of a staging block: at least the length of its rows. -/
def resolveLeading (descriptor : Descriptor) (operand : Operand) : Except KernelDefect UInt16 :=
  let given := descriptor.leading.get operand
  let needed := descriptor.rowLength operand
  if given = 0 then .ok needed
  else if given < needed then .error (.shortLeading operand given needed)
  else .ok given

/-- The bytes of a staging block with a stride. -/
def blockBytes (descriptor : Descriptor) (operand : Operand) (stride : UInt16) : Nat :=
  stride.toNat * (descriptor.rowCount operand).toNat * (descriptor.memory.get operand).size

end Descriptor

/-- A checked descriptor and what follows from it. -/
structure Kernel where
  descriptor : Descriptor
  /-- Rows of the tile of one SIMD group. -/
  registerM : UInt16
  /-- Columns of the tile of one SIMD group. -/
  registerN : UInt16
  /-- Row strides of the staging blocks. -/
  leading : PerOperand UInt16
  threadgroupMemory : UInt16
  threadgroupSize : UInt16
  deriving DecidableEq, Repr, Inhabited

/-- The least number of pieces of a size that cover an extent, in 32 bit arithmetic. -/
def ceilDiv (extent size : UInt32) : UInt32 :=
  (extent + size - 1) / size

namespace Kernel

/-- Checks a descriptor and derives its kernel. Factors are staged side by side, the product after them, so
    the larger of both is reserved. -/
def ofDescriptor (descriptor : Descriptor) : Except KernelDefect Kernel := do
  let block := descriptor.block
  let splits := descriptor.splits
  if block.m = 0 || block.n = 0 || block.k = 0 then throw (.blockUnset block)
  if splits.m = 0 || splits.n = 0 then throw (.splitsUnset splits)
  descriptor.checkTiling
  descriptor.checkPair .a
  descriptor.checkPair .b
  descriptor.checkPair .c
  if descriptor.register.c = .bf16 then throw .narrowAccumulator
  descriptor.checkBias
  let a ← descriptor.resolveLeading .a
  let b ← descriptor.resolveLeading .b
  let c ← descriptor.resolveLeading .c
  let needed :=
    max (descriptor.blockBytes .a a + descriptor.blockBytes .b b) (descriptor.blockBytes .c c)
  if needed > maxThreadgroupMemory then throw (.memory needed)
  return {
    descriptor
    registerM := block.m / splits.m
    registerN := block.n / splits.n
    leading := ⟨a, b, c⟩
    threadgroupMemory := UInt16.ofNat needed
    threadgroupSize := 32 * splits.m * splits.n }

/-- The threadgroups of a problem: those along the columns and those along the rows. -/
def grid (kernel : Kernel) (extents : Extents) : UInt32 × UInt32 :=
  (ceilDiv extents.n kernel.descriptor.block.n.toUInt32,
    ceilDiv extents.m kernel.descriptor.block.m.toUInt32)

/-- The format of a matrix in memory. -/
def memory (kernel : Kernel) (operand : Operand) : Precision :=
  kernel.descriptor.memory.get operand

/-- The format of a matrix in registers. -/
def register (kernel : Kernel) (operand : Operand) : Precision :=
  kernel.descriptor.register.get operand

/-- The bytes of the staging block of a matrix. -/
def blockBytes (kernel : Kernel) (operand : Operand) : Nat :=
  kernel.descriptor.blockBytes operand (kernel.leading.get operand)

end Kernel

end KernelForge.Gemm
