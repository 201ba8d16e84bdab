import KernelForge.Gemm.Kernel
import KernelForge.Tuning.Tables

/-!
The choice of a kernel for a problem and a device. The newest generation reads device memory directly and
always takes one block size. The others stage through threadgroup memory and take the small block as long as
the problem makes no more threadgroups than the cores hold at once.
-/

namespace KernelForge.Gemm

namespace Problem

/-- The register formats: factors keep their memory format, widened where the device cannot compute in it,
    and only a product of three 16 bit matrices is accumulated in 16 bits. -/
def registerPrecisions (memory : PerOperand Precision) (family : Family) : PerOperand Precision :=
  let widened (precision : Precision) : Precision :=
    if !family.nativeBfloat && precision = .bf16 then .fp32 else precision
  { a := widened memory.a
    b := widened memory.b
    c := if memory.a = .fp16 && memory.b = .fp16 && memory.c = .fp16 then .fp16 else .fp32 }

/-- Strides for the large block of 32 bit matrices that make neighbouring rows start in different banks. -/
def paddedLeading (block : Block) (transpose : Transpose) (memory : PerOperand Precision) :
    PerOperand UInt16 where
  a :=
    if transpose.a then if memory.a = .fp32 then block.m + 4 else block.m + 8
    else block.k
  b :=
    if transpose.b then if memory.b = .fp32 && !transpose.a then block.k + 4 else block.k
    else block.n
  c := block.n

/-- Whether a matrix has 32 bit elements. -/
def isLarge (problem : Problem) : Bool :=
  problem.memory.a = .fp32 || problem.memory.b = .fp32 || problem.memory.c = .fp32

/-- The threadgroups that the problem would make with the block edge of the occupancy rule. -/
def groups (problem : Problem) (edge : UInt32) : Int64 :=
  let count (extent : UInt32) : Int64 := Int64.ofNat (ceilDiv extent edge).toNat
  count problem.extents.m * count problem.extents.n * max problem.batch 1

/-- Whether the problem fills the device so little that small blocks are better. -/
def prefersSmall (problem : Problem) (device : Device) (tables : Tuning.Tables) : Bool :=
  let perCore :=
    if problem.isLarge then tables.gemm.largeGroupsPerCore else tables.gemm.smallGroupsPerCore
  problem.groups tables.gemm.occupancyBlock ≤ tables.cores device * perCore

/-- The bias of a kernel: without a format it has that of the product. -/
def kernelBias (problem : Problem) : Bias :=
  if problem.bias.axis ≠ .none && !problem.bias.precision.isValid then
    { problem.bias with precision := problem.memory.c }
  else problem.bias

/-- Chooses the kernel of a problem on a device. -/
def descriptor (problem : Problem) (device : Device) (tables : Tuning.Tables) :
    Except Failure Descriptor := do
  problem.check.mapError ProblemDefect.failure
  if !device.family.isValid then
    throw (.of .unsupportedDevice s!"family {device.family.name}")
  let base : Descriptor := {
    block := tables.gemm.blocks.apple9
    memory := problem.memory
    register := registerPrecisions problem.memory device.family
    splits := ⟨1, 1⟩
    transpose := problem.transpose
    asyncStore := device.family.prefersAsyncCopy
    bias := problem.kernelBias }
  if !device.family.prefersAsyncCopy then return base
  let staged := { base with asyncLoad := true, splits := ⟨2, 2⟩ }
  if problem.prefersSmall device tables then
    return { staged with block := tables.gemm.blocks.small }
  if problem.isLarge then
    let block := tables.gemm.blocks.largeFp32
    return { staged with block, leading := paddedLeading block problem.transpose problem.memory }
  return { staged with block := tables.gemm.blocks.largeFp16 }

end Problem

end KernelForge.Gemm
