import KernelForge.Attention.Kernel
import KernelForge.Tuning.Tables

/-!
The choice of a kernel for a problem, a pass and a device. A row of the tuning tables gives the block and the
operands to keep in registers; everything else follows from the problem.
-/

namespace KernelForge.Attention

/-- The operands that a row names, which must be ones that the pass can keep. -/
def cacheSet (pass : Pass) (names : List String) : Except Failure OperandSet :=
  names.foldlM (fun set name => do
    let operand ← Operand.parse name
    if pass.cacheable.contains operand then return set.insert operand
    else throw (.of .invalidDescriptor
      (s!"{operand.name} cannot be cached by the {pass.name} pass " ++
        s!"(cacheable: {pass.cacheable.render})"))) .empty

namespace Problem

/-- The tables of a pass; another code has none. -/
def passTables (pass : Pass) (tables : Tuning.AttentionTables) : Tuning.PassTables :=
  if pass = .forward then tables.forward
  else if pass = .backwardQuery then tables.backwardQuery
  else if pass = .backwardKeyValue then tables.backwardKeyValue
  else ⟨⟨[], []⟩, ⟨[], []⟩⟩

/-- The rows that apply: the mixed ones when inputs and intermediates have 16 bits, and the default ones
    when there are none for the pass. -/
def rows (problem : Problem) (pass : Pass) (family : Family) (tables : Tuning.AttentionTables) :
    List Tuning.Row :=
  let ofPass := passTables pass tables
  let chosen :=
    if problem.lowInputs && problem.lowIntermediates then ofPass.mixed.forFamily family
    else ofPass.full.forFamily family
  if chosen.isEmpty then tables.default.forFamily family else chosen

/-- Chooses the kernel of a problem for a pass on a device. -/
def descriptor (problem : Problem) (type : KernelType) (device : Device) (tables : Tuning.Tables) :
    Except Failure Descriptor := do
  problem.check
  if !type.pass.isValid then throw (.of .descriptorIncomplete "kernel type")
  if !device.family.isValid then throw (.of .unsupportedDevice (Text.quote device.name))
  let row ← Tuning.Row.select (problem.rows type.pass device.family tables.attention) problem.extents.head
  let cache ← cacheSet type.pass row.cached
  let newest := decide (9 ≤ device.family.code)
  return {
    block := ⟨row.parallelization, row.traversal, min row.head (paddedHead problem.extents.head)⟩
    cache
    transposed := problem.transposed
    memory := problem.memoryPrecisions
    register := problem.registerPrecisions device.family
    head := problem.extents.head
    asyncCache := newest
    asyncLoad := !newest
    type }

/-- The kernels of a training step: every pass with its second result. -/
def trainingDescriptors (problem : Problem) (device : Device) (tables : Tuning.Tables) :
    Except Failure (List Descriptor) :=
  Pass.all.mapM fun pass =>
    let type : KernelType := ⟨pass, true⟩
    (problem.descriptor type device tables).mapError (Failure.within type.name)

end Problem

end KernelForge.Attention
