import KernelForge.Attention.Document
import KernelForge.Attention.Heuristic
import KernelForge.Attention.Source
import KernelForge.Cache
import KernelForge.Gemm.Document
import KernelForge.Gemm.Heuristic
import KernelForge.Gemm.Source

/-!
Kernels for one device. A generator resolves problems into descriptors by the tuning tables, has their programs
generated once, and remembers them in a memory for matrix products and one for attention. It is a value: every
generation gives the generator after it.
-/

namespace KernelForge

/-- The two kinds of kernels. -/
inductive KernelKind
  | gemm
  | attention
  deriving DecidableEq, Repr

/-- The name of a kind. -/
def KernelKind.name : KernelKind → String
  | gemm => "gemm"
  | attention => "attention"

/-- A problem to be solved by one kernel. -/
inductive Task
  | gemm (problem : Gemm.Problem)
  | attention (problem : Attention.Problem) (type : Attention.KernelType)

/-- The descriptor of a kernel of either kind. -/
inductive KernelDescriptor
  | gemm (descriptor : Gemm.Descriptor)
  | attention (descriptor : Attention.Descriptor)
  deriving DecidableEq

namespace KernelDescriptor

/-- The kind of the kernel. -/
def kind : KernelDescriptor → KernelKind
  | gemm _ => .gemm
  | attention _ => .attention

/-- The key of the kernel. -/
def key : KernelDescriptor → String
  | gemm descriptor => descriptor.key
  | attention descriptor => descriptor.key

/-- The descriptor as JSON. -/
def json (descriptor : KernelDescriptor) (dialect : Json.Dialect) : Except Failure Json.Value :=
  match descriptor with
  | gemm descriptor => descriptor.json dialect
  | attention descriptor => descriptor.json

end KernelDescriptor

/-- A generated kernel and how to dispatch it. -/
structure Generated where
  descriptor : KernelDescriptor
  program : Shader.Program
  /-- The number of threadgroups along each axis; attention has only one. -/
  grid : List UInt32
  /-- What the slots of the program are filled with. -/
  bindings : List Shader.BoundConstant

namespace Generated

/-- The grid as JSON. -/
def gridJson (generated : Generated) : Json.Value :=
  .list (generated.grid.map fun count => .natural count.toNat)

/-- The slots of the program as JSON. -/
def constantsJson (generated : Generated) : Json.Value :=
  .list (generated.program.constants.map Shader.FunctionConstant.json)

/-- The filled slots as JSON. -/
def bindingsJson (generated : Generated) (dialect : Json.Dialect) : Except Failure Json.Value := do
  return .list (← generated.bindings.mapM (Shader.BoundConstant.json dialect))

/-- What is told about a kernel next to its source, after the name of the kernel and of its file where it has
    them. -/
def metadata (generated : Generated) (name file : String) : Except Failure Json.Value := do
  let program := generated.program
  let bindings ← generated.bindingsJson .full
  let kernel ← generated.descriptor.json .full
  return .object (
    Json.textUnlessEmpty "name" name ++ Json.textUnlessEmpty "file" file ++
    [("kind", .text generated.descriptor.kind.name), ("cache_key", .text generated.descriptor.key),
      ("entry_point", .text program.entryPoint),
      ("threadgroup_memory", .natural program.threadgroupMemory.toNat),
      ("threadgroup_size", .natural program.threadgroupSize.toNat), ("grid", generated.gridJson),
      ("constants", generated.constantsJson), ("function_constants", bindings), ("kernel", kernel)])

end Generated

/-- The generator of the kernels of one device. -/
structure Generator where
  device : Device
  tables : Tuning.Tables
  gemms : Cache Gemm.Descriptor := { name := KernelKind.gemm.name }
  attentions : Cache Attention.Descriptor := { name := KernelKind.attention.name }

/-- The end of a generation: its result, the generator afterwards, and what is logged. -/
structure Production where
  result : Except Failure Generated
  generator : Generator
  records : List Log.Record := []

/-- What is told about a remembered program. -/
structure CachedKernel where
  kind : KernelKind
  key : String
  program : Shader.Program
  deriving DecidableEq

namespace Generator

/-- The kernel of a matrix product. -/
def gemm (generator : Generator) (problem : Gemm.Problem) : Production :=
  match problem.descriptor generator.device generator.tables with
  | .error failure => ⟨.error failure, generator, []⟩
  | .ok descriptor =>
    let landing := generator.gemms.get Gemm.Descriptor.key Gemm.generate descriptor
    let result : Except Failure Generated := do
      let program ← landing.result
      let kernel ← (Gemm.Kernel.ofDescriptor descriptor).mapError Gemm.KernelDefect.failure
      let (x, y) := kernel.grid problem.extents
      return ⟨.gemm descriptor, program, [x, y], problem.boundConstants⟩
    ⟨result, { generator with gemms := landing.cache }, landing.records⟩

/-- The kernel of one pass of attention. -/
def attention (generator : Generator) (problem : Attention.Problem) (type : Attention.KernelType) :
    Production :=
  match problem.descriptor type generator.device generator.tables with
  | .error failure => ⟨.error failure, generator, []⟩
  | .ok descriptor =>
    let landing := generator.attentions.get Attention.Descriptor.key Attention.generate descriptor
    let result : Except Failure Generated := do
      let program ← landing.result
      let kernel ← (Attention.Kernel.ofDescriptor descriptor).mapError Attention.KernelDefect.failure
      return ⟨.attention descriptor, program, [kernel.grid problem.extents], problem.boundConstants⟩
    ⟨result, { generator with attentions := landing.cache }, landing.records⟩

/-- The kernel of a task. -/
def generate (generator : Generator) : Task → Production
  | .gemm problem => generator.gemm problem
  | .attention problem type => generator.attention problem type

/-- The remembered programs of one kind, by the keys of their descriptors. -/
def listing {κ : Type} [DecidableEq κ] (kind : KernelKind) (keyText : κ → String) (cache : Cache κ) :
    List CachedKernel :=
  (cache.keys keyText).filterMap fun key =>
    (cache.lookup? key).map fun program => ⟨kind, keyText key, program⟩

/-- Whether a remembered program is listed no later than another: by the names of the kinds, then by keys. -/
def listedBefore (first second : CachedKernel) : Bool :=
  if first.kind = second.kind then first.key ≤ second.key else first.kind.name ≤ second.kind.name

/-- All remembered programs, by kind and key. -/
def cached (generator : Generator) : List CachedKernel :=
  (listing .gemm Gemm.Descriptor.key generator.gemms ++
    listing .attention Attention.Descriptor.key generator.attentions).mergeSort listedBefore

/-- The number of remembered programs of each kind. -/
def counts (generator : Generator) : List (String × Nat) :=
  [(KernelKind.attention.name, generator.attentions.size), (KernelKind.gemm.name, generator.gemms.size)]

/-- The samples of one counter; a memory that never counted has none. -/
def samples (generator : Generator) (name : String) (count : CacheCounts → Nat) : List String :=
  let sample (cache : String) (counts : CacheCounts) :=
    if count counts = 0 then [] else [name ++ "\x7bcache=\"" ++ cache ++ "\"\x7d " ++ toString (count counts)]
  sample KernelKind.attention.name generator.attentions.counts ++
    sample KernelKind.gemm.name generator.gemms.counts

/-- The samples of all counters, in the order of their names. -/
def metrics (generator : Generator) : List String :=
  generator.samples "mfa_cache_generation_failures_total" CacheCounts.failures ++
    generator.samples "mfa_cache_hits_total" CacheCounts.hits ++
    generator.samples "mfa_cache_misses_total" CacheCounts.misses

end Generator

end KernelForge
