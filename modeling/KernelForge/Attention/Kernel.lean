import KernelForge.Attention.Problem

/-!
A kernel of attention. A descriptor says everything that the text of the kernel depends on; a kernel is a
descriptor that was checked, with the operands it binds, those it keeps in registers, and the resources of a
threadgroup.
-/

namespace KernelForge.Attention

/-- The block of a threadgroup: rows it owns, steps along the other sequence, and the part of the head
    dimension taken at a time. -/
structure Block where
  parallelization : UInt16
  traversal : UInt16
  head : UInt16
  deriving DecidableEq, Repr, Inhabited

/-- The wording of a block in messages. -/
def Block.display (block : Block) : String :=
  s!"\x7bParallelization:{block.parallelization} Traversal:{block.traversal} Head:{block.head}\x7d"

/-- Everything that the text of a kernel depends on. -/
structure Descriptor where
  block : Block
  /-- The operands to keep in registers all the way. -/
  cache : OperandSet := .empty
  /-- The operands stored with the head dimension first. -/
  transposed : OperandSet := .empty
  memory : Precisions
  register : Precisions
  head : UInt16
  /-- Operands in registers are loaded through threadgroup memory. -/
  asyncCache : Bool := false
  /-- Streamed operands are loaded through threadgroup memory. -/
  asyncLoad : Bool := false
  type : KernelType
  deriving DecidableEq, Repr, Inhabited

/-- The formats of the operands of a set, in a key. -/
def precisionsKey (set : OperandSet) (precisions : Precisions) : String :=
  Text.joined "." (set.toList.map fun operand => operand.name ++ (precisions.get operand).name)

namespace Descriptor

/-- A truth value in a key. -/
def keyFlag (value : Bool) : String :=
  if value then "T" else "F"

/-- A text that two descriptors share only if they describe the same program. Operands that the kernel does
    not use leave no trace in it. -/
def key (descriptor : Descriptor) : String :=
  let block := descriptor.block
  let active := descriptor.type.operands
  let inRegisters := active.union descriptor.type.registers
  s!"attention-{descriptor.type.name}-d{descriptor.head}-" ++
    s!"{block.parallelization}x{block.traversal}x{block.head}" ++
    s!"-cache[{(descriptor.cache.inter active).render}]" ++
    s!"-trans[{(descriptor.transposed.inter active).render}]" ++
    s!"-mem{precisionsKey active descriptor.memory}" ++
    s!"-reg{precisionsKey inRegisters descriptor.register}" ++
    s!"-async{keyFlag descriptor.asyncCache}{keyFlag descriptor.asyncLoad}"

end Descriptor

/-- Why a descriptor is refused. -/
inductive KernelDefect
  | passUnset
  | headUnset
  | blockUnset (block : Block)
  | precisionUnset (operand : Operand)
  | registerUnset (operand : Operand)
  | untiled (block : Block)
  | headBlock (block padded : UInt16)
  | pair (operand : Operand) (defect : PairDefect)
  | narrowAccumulator (operand : Operand)
  | memory (needed : Nat)
  deriving DecidableEq, Repr

/-- The failure that a defect is reported as. -/
def KernelDefect.failure : KernelDefect → Failure
  | .passUnset => .of .descriptorIncomplete "kernel type"
  | .headUnset => .of .descriptorIncomplete "head dimension"
  | .blockUnset block => .of .descriptorIncomplete s!"block dimensions {block.display}"
  | .precisionUnset operand => .of .descriptorIncomplete s!"precision of {operand.name}"
  | .registerUnset operand => .of .descriptorIncomplete s!"register precision of {operand.name}"
  | .untiled block =>
    .of .invalidDescriptor
      s!"block {block.parallelization}x{block.traversal}x{block.head} is not a multiple of 8"
  | .headBlock block padded =>
    .of .invalidDescriptor s!"head block {block} exceeds padded head dimension {padded}"
  | .pair operand defect => defect.failure.within s!"operand {operand.name}"
  | .narrowAccumulator operand =>
    (Failure.of .invalidPrecisionPair s!"accumulator must be {Precision.fp32.name}").within
      s!"operand {operand.name}"
  | .memory needed =>
    .of .threadgroupMemoryExceeded s!"{needed} bytes needed, {maxThreadgroupMemory} available"

/-- The head dimension filled up to a multiple of eight, in 16 bit arithmetic. -/
def paddedHead (head : UInt16) : UInt16 :=
  (head + 7) / 8 * 8

namespace Descriptor

/-- Whether an operand runs along the sequence that threadgroups divide among them. -/
def isParallel (descriptor : Descriptor) (operand : Operand) : Bool :=
  operand.isRowIndexed != (descriptor.type.pass = .backwardKeyValue)

/-- How much of its sequence a block of an operand covers. -/
def blockSequence (descriptor : Descriptor) (operand : Operand) : UInt16 :=
  if descriptor.isParallel operand then descriptor.block.parallelization else descriptor.block.traversal

/-- The bytes of the staging block of a matrix. -/
def stagedBytes (descriptor : Descriptor) (operand : Operand) : Nat :=
  (descriptor.blockSequence operand).toNat * descriptor.block.head.toNat *
    (descriptor.memory.get operand).size

/-- The largest staging block of any phase; phases follow each other and share the memory. Besides the
    matrices there are the last columns of two of them for the row term, and slices of the row terms. -/
def requiredMemory (descriptor : Descriptor) : Nat :=
  let matrices := descriptor.type.operands.toList.filter fun operand =>
    operand ≠ .l && operand ≠ .d && operand ≠ .dST
  let matrixBytes := matrices.map descriptor.stagedBytes
  let size (operand : Operand) : Nat := (descriptor.memory.get operand).size
  let edge :=
    if descriptor.type.pass = .backwardQuery then
      [descriptor.block.parallelization.toNat * 8 * (size .dO + size .o)] else []
  let slices :=
    if descriptor.type.pass = .backwardKeyValue then
      [descriptor.block.traversal.toNat * size .l, descriptor.block.traversal.toNat * size .d] else []
  (matrixBytes ++ edge ++ slices).foldl max 0

/-- Every operand of a list passes a check; the first that does not is the defect. -/
def checkEach (operands : List Operand) (check : Operand → Except KernelDefect Unit) :
    Except KernelDefect Unit :=
  operands.forM check

/-- A bound operand has a format in memory and in registers. -/
def checkAssigned (descriptor : Descriptor) (operand : Operand) : Except KernelDefect Unit :=
  if (descriptor.memory.get operand).isValid && (descriptor.register.get operand).isValid then .ok ()
  else .error (.precisionUnset operand)

/-- A part of the attention matrix has a format in registers. -/
def checkRegister (descriptor : Descriptor) (operand : Operand) : Except KernelDefect Unit :=
  if (descriptor.register.get operand).isValid then .ok () else .error (.registerUnset operand)

/-- The formats of a bound operand fit together. -/
def checkPair (descriptor : Descriptor) (operand : Operand) : Except KernelDefect Unit :=
  (Precision.checkPair (descriptor.memory.get operand) (descriptor.register.get operand)).mapError
    (.pair operand)

/-- A sum over the traversal is kept in 32 bits. -/
def checkAccumulator (descriptor : Descriptor) (operand : Operand) : Except KernelDefect Unit :=
  if descriptor.register.get operand = .fp32 then .ok () else .error (.narrowAccumulator operand)

end Descriptor

/-- A checked descriptor and what follows from it. -/
structure Kernel where
  descriptor : Descriptor
  /-- The operands bound to buffers. -/
  operands : OperandSet
  /-- The operands kept in registers all the way. -/
  cached : OperandSet
  paddedHead : UInt16
  threadgroupMemory : UInt16
  threadgroupSize : UInt16
  deriving DecidableEq, Repr, Inhabited

namespace Kernel

/-- Checks a descriptor and derives its kernel. -/
def ofDescriptor (descriptor : Descriptor) : Except KernelDefect Kernel := do
  let block := descriptor.block
  let type := descriptor.type
  let padded := Attention.paddedHead descriptor.head
  let bound := type.operands.toList
  if !type.pass.isValid then throw .passUnset
  if descriptor.head = 0 then throw .headUnset
  if block.parallelization = 0 || block.traversal = 0 || block.head = 0 then throw (.blockUnset block)
  Descriptor.checkEach bound descriptor.checkAssigned
  Descriptor.checkEach type.registers.toList descriptor.checkRegister
  if block.parallelization % 8 ≠ 0 || block.traversal % 8 ≠ 0 || block.head % 8 ≠ 0 then
    throw (.untiled block)
  if block.head > padded then throw (.headBlock block.head padded)
  Descriptor.checkEach bound descriptor.checkPair
  Descriptor.checkEach type.accumulators.toList descriptor.checkAccumulator
  let needed := descriptor.requiredMemory
  if needed > maxThreadgroupMemory then throw (.memory needed)
  return {
    descriptor
    operands := type.operands
    cached := (descriptor.cache.inter type.operands).inter type.pass.cacheable
    paddedHead := padded
    threadgroupMemory := UInt16.ofNat needed
    threadgroupSize := 32 * (block.parallelization / 8) }

/-- The number of threadgroups of a problem, in 32 bit arithmetic. -/
def grid (kernel : Kernel) (extents : Extents) : UInt32 :=
  let length :=
    if kernel.descriptor.type.pass = .backwardKeyValue then extents.column else extents.row
  let size := kernel.descriptor.block.parallelization.toUInt32
  (length + size - 1) / size

/-- The format of an operand in memory. -/
def memory (kernel : Kernel) (operand : Operand) : Precision :=
  kernel.descriptor.memory.get operand

/-- The format of an operand in registers. -/
def register (kernel : Kernel) (operand : Operand) : Precision :=
  kernel.descriptor.register.get operand

/-- Whether an operand is stored with the head dimension first. -/
def isTransposed (kernel : Kernel) (operand : Operand) : Bool :=
  kernel.descriptor.transposed.contains operand

/-- Whether an operand stays in registers all the way. -/
def isCached (kernel : Kernel) (operand : Operand) : Bool :=
  kernel.cached.contains operand

end Kernel

end KernelForge.Attention
