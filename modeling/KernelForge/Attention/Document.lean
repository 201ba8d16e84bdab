import KernelForge.Attention.Kernel
import KernelForge.Document
import KernelForge.Json.Reading
import KernelForge.Json.Record
import KernelForge.Yaml.Printer

/-!
Attention problems and their kernels in documents. Formats of operands are written by name, in the order of
the names, and only where there is one.
-/

namespace KernelForge.Attention

open Json (Value Dialect)

/-- The formats as JSON. -/
def Precisions.json (precisions : Precisions) : Value :=
  .object (precisions.named.map fun (name, precision) => (name, .text precision.name))

/-- The formats as YAML. -/
def Precisions.yaml (precisions : Precisions) : String :=
  (Yaml.Tree.record (precisions.named.map fun (name, precision) => (name, .text precision.name))).document

/-- The members of the transposition. -/
def Transpose.members (transpose : Transpose) : List (String × Value) :=
  Json.flagIfSet "q" transpose.q ++ Json.flagIfSet "k" transpose.k ++ Json.flagIfSet "v" transpose.v ++
    Json.flagIfSet "o" transpose.o

/-- A problem as JSON. -/
def Problem.json (problem : Problem) (dialect : Dialect) : Value :=
  .object (
    Json.flagIfSet "low_precision_inputs" problem.lowInputs ++
    Json.flagIfSet "low_precision_intermediates" problem.lowIntermediates ++
    Json.flagIfSet "low_precision_outputs" problem.lowOutputs ++
    Json.flagIfSet "aggressive_intermediates" problem.aggressive ++
    Json.member "matrix" (.object
      [("row", .natural problem.extents.row.toNat), ("column", .natural problem.extents.column.toNat),
        ("head", .natural problem.extents.head.toNat)]) ++
    Json.optionalObject dialect "transpose" problem.transpose.members)

/-- A kernel type as JSON. Only a pass has a name. -/
def KernelType.json (type : KernelType) : Except Failure Value := do
  return .object (Json.member "pass" (.text (← type.pass.documentName)) ++
    Json.flagIfSet "secondary" type.secondary)

/-- A kernel as JSON. -/
def Descriptor.json (descriptor : Descriptor) : Except Failure Value := do
  let block := descriptor.block
  let type ← descriptor.type.json
  return .object (
    Json.member "block_dimensions" (.object
      [("parallelization", .natural block.parallelization.toNat),
        ("traversal", .natural block.traversal.toNat), ("head", .natural block.head.toNat)]) ++
    Json.member "cache_state" (.text descriptor.cache.render) ++
    Json.member "transpose_state" (.text descriptor.transposed.render) ++
    Json.member "memory_precisions" descriptor.memory.json ++
    Json.member "register_precisions" descriptor.register.json ++
    Json.member "head_dimension" (.natural descriptor.head.toNat) ++
    Json.flagIfSet "prefer_async_cache" descriptor.asyncCache ++
    Json.flagIfSet "prefer_async_load" descriptor.asyncLoad ++
    Json.member "type" type)

section Reading

variable {Node : Type} {m : Type → Type} [Monad m] [MonadExceptOf Failure m]

/-- Reads the formats of operands by name. -/
def Precisions.read (format : Format Node m) (node : Node) : m Precisions := do
  let entries ← format.dictionary Precision.parse .unset node
  match Precisions.ofNamed entries with
  | .ok precisions => return precisions
  | .error failure => throw failure

/-- Reads the sizes of a problem. -/
def Extents.read (format : Format Node m) : Node → Extents → m Extents :=
  format.record
    [.of "row" (·.row) (fun held value => { held with row := value }) format.uint32,
      .of "column" (·.column) (fun held value => { held with column := value }) format.uint32,
      .of "head" (·.head) (fun held value => { held with head := value }) format.uint16]

/-- Reads the transposition. -/
def Transpose.read (format : Format Node m) : Node → Transpose → m Transpose :=
  format.record
    [.of "q" (·.q) (fun held value => { held with q := value }) format.boolean,
      .of "k" (·.k) (fun held value => { held with k := value }) format.boolean,
      .of "v" (·.v) (fun held value => { held with v := value }) format.boolean,
      .of "o" (·.o) (fun held value => { held with o := value }) format.boolean]

/-- Reads a problem. -/
def Problem.read (format : Format Node m) : Node → Problem → m Problem :=
  format.record
    [.of "low_precision_inputs" (·.lowInputs) (fun held value => { held with lowInputs := value })
        format.boolean,
      .of "low_precision_intermediates" (·.lowIntermediates)
        (fun held value => { held with lowIntermediates := value }) format.boolean,
      .of "low_precision_outputs" (·.lowOutputs) (fun held value => { held with lowOutputs := value })
        format.boolean,
      .of "aggressive_intermediates" (·.aggressive) (fun held value => { held with aggressive := value })
        format.boolean,
      .of "matrix" (·.extents) (fun held value => { held with extents := value }) (Extents.read format),
      .of "transpose" (·.transpose) (fun held value => { held with transpose := value })
        (Transpose.read format)]

/-- Reads a kernel type. -/
def KernelType.read (format : Format Node m) : Node → KernelType → m KernelType :=
  format.record
    [format.field "pass" Pass.parse (fun held value => { held with pass := value }) (fun _ => {}),
      .of "secondary" (·.secondary) (fun held value => { held with secondary := value }) format.boolean]

/-- Reads a block size. -/
def Block.read (format : Format Node m) : Node → Block → m Block :=
  format.record
    [.of "parallelization" (·.parallelization) (fun held value => { held with parallelization := value })
        format.uint16,
      .of "traversal" (·.traversal) (fun held value => { held with traversal := value }) format.uint16,
      .of "head" (·.head) (fun held value => { held with head := value }) format.uint16]

/-- Reads a kernel. Behind the two sets of operands come the memory precisions, a byte each. -/
def Descriptor.read (format : Format Node m) : Node → Descriptor → m Descriptor :=
  format.record
    [.of "block_dimensions" (·.block) (fun held value => { held with block := value }) (Block.read format),
      format.field "cache_state" OperandSet.parse (fun held value => { held with cache := value })
        (fun held =>
          { held with
            cache := .empty
            transposed := .empty
            memory := held.memory.setAll (Operand.all.take 4) .unset }),
      format.field "transpose_state" OperandSet.parse (fun held value => { held with transposed := value })
        (fun held =>
          { held with
            transposed := .empty
            memory := held.memory.setAll (Operand.all.take 6) .unset }),
      .of "memory_precisions" (·.memory) (fun held value => { held with memory := value })
        (fun node _ => Precisions.read format node),
      .of "register_precisions" (·.register) (fun held value => { held with register := value })
        (fun node _ => Precisions.read format node),
      .of "head_dimension" (·.head) (fun held value => { held with head := value }) format.uint16,
      .of "prefer_async_cache" (·.asyncCache) (fun held value => { held with asyncCache := value })
        format.boolean,
      .of "prefer_async_load" (·.asyncLoad) (fun held value => { held with asyncLoad := value })
        format.boolean,
      .of "type" (·.type) (fun held value => { held with type := value }) (KernelType.read format)]

end Reading

/-- Reads a problem with all its sizes from the bytes of a JSON document; unknown keys are passed over. -/
def Problem.ofBytes (bytes : List UInt8) : Except Failure Problem := do
  let problem ← Json.readBytesOnto (Problem.read (Json.format .document)) bytes default
  problem.check
  return problem

/-- Reads a problem with all its sizes from JSON text. -/
def Problem.parse (text : String) : Except Failure Problem :=
  Problem.ofBytes (Text.bytesOf text)

end KernelForge.Attention
