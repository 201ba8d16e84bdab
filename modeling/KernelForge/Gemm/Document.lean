import KernelForge.Document
import KernelForge.Gemm.Kernel
import KernelForge.Json.Record

/-!
Matrix products and their kernels in documents. Both are written as JSON and read from every format; what is
not there is zero.
-/

namespace KernelForge.Gemm

open Json (Value Dialect)

/-- The members of a precision for each matrix. -/
def PerOperand.precisionMembers (precisions : PerOperand Precision) :
    Except Failure (List (String × Value)) := do
  return [("a", .text (← precisions.a.documentName)), ("b", .text (← precisions.b.documentName)),
    ("c", .text (← precisions.c.documentName))]

/-- The members of a stride for each matrix; zeros are left out. -/
def strideMembers (a b c : Nat) : List (String × Value) :=
  Json.naturalUnlessZero "a" a ++ Json.naturalUnlessZero "b" b ++ Json.naturalUnlessZero "c" c

/-- The members of the transposition. -/
def Transpose.members (transpose : Transpose) : List (String × Value) :=
  Json.flagIfSet "a" transpose.a ++ Json.flagIfSet "b" transpose.b

/-- The members of a bias; what is not set is left out. -/
def Bias.members (bias : Bias) : Except Failure (List (String × Value)) := do
  let axis := if bias.axis = .none then [] else Json.member "axis" (.text bias.axis.name)
  if bias.precision = .unset then return axis
  else return axis ++ Json.member "precision" (.text (← bias.precision.documentName))

/-- A problem as JSON. -/
def Problem.json (problem : Problem) (dialect : Dialect) : Except Failure Value := do
  let extents := problem.extents
  let leading := problem.leading
  let precisions ← problem.memory.precisionMembers
  let beta ← if problem.beta == 0 then pure [] else (Json.single dialect problem.beta).map (Json.member "beta")
  let bias ← problem.bias.members
  return .object (
    (if problem.batch = 0 then [] else Json.member "batch" (.integer problem.batch.toInt)) ++
    Json.member "matrix" (.object
      [("m", .natural extents.m.toNat), ("n", .natural extents.n.toNat), ("k", .natural extents.k.toNat)]) ++
    Json.member "memory_precisions" (.object precisions) ++
    Json.member "transpose" (.object problem.transpose.members) ++
    Json.optionalObject dialect "leading_dimensions"
      (strideMembers leading.a.toNat leading.b.toNat leading.c.toNat) ++
    Json.flagIfSet "load_previous_c" problem.loadPreviousC ++ beta ++
    Json.optionalObject dialect "bias" bias)

/-- A kernel as JSON. -/
def Descriptor.json (descriptor : Descriptor) (dialect : Dialect) : Except Failure Value := do
  let block := descriptor.block
  let leading := descriptor.leading
  let memory ← descriptor.memory.precisionMembers
  let register ← descriptor.register.precisionMembers
  let bias ← descriptor.bias.members
  return .object (
    Json.member "block_dimensions" (.object
      [("m", .natural block.m.toNat), ("n", .natural block.n.toNat), ("k", .natural block.k.toNat)]) ++
    Json.optionalObject dialect "leading_block_dimensions"
      (strideMembers leading.a.toNat leading.b.toNat leading.c.toNat) ++
    Json.member "memory_precisions" (.object memory) ++
    Json.member "register_precisions" (.object register) ++
    Json.member "splits" (.object
      [("m", .natural descriptor.splits.m.toNat), ("n", .natural descriptor.splits.n.toNat)]) ++
    Json.member "transpose" (.object descriptor.transpose.members) ++
    Json.flagIfSet "prefer_async_load" descriptor.asyncLoad ++
    Json.flagIfSet "prefer_async_store" descriptor.asyncStore ++
    Json.optionalObject dialect "bias" bias)

section Reading

variable {Node : Type} {m : Type → Type} [Monad m]

/-- Reads a number for each matrix. -/
def PerOperand.read {α : Type} (format : Format Node m) (entry : Node → α → m α) :
    Node → PerOperand α → m (PerOperand α) :=
  format.record
    [.of "a" (·.a) (fun held value => { held with a := value }) entry,
      .of "b" (·.b) (fun held value => { held with b := value }) entry,
      .of "c" (·.c) (fun held value => { held with c := value }) entry]

/-- The field with a precision for each matrix. `clear` says what is left of the record when one is cleared. -/
def precisionsField {σ : Type} (format : Format Node m) (key : String) (get : σ → PerOperand Precision)
    (put : σ → PerOperand Precision → σ) (clear : PerOperand (σ → σ)) : Field Node m σ :=
  ⟨key, format.record
    [format.field "a" Precision.parse (fun held value => put held { get held with a := value }) clear.a,
      format.field "b" Precision.parse (fun held value => put held { get held with b := value }) clear.b,
      format.field "c" Precision.parse (fun held value => put held { get held with c := value }) clear.c]⟩

/-- Reads the transposition. -/
def Transpose.read (format : Format Node m) : Node → Transpose → m Transpose :=
  format.record
    [.of "a" (·.a) (fun held value => { held with a := value }) format.boolean,
      .of "b" (·.b) (fun held value => { held with b := value }) format.boolean]

/-- Reads a bias. -/
def Bias.read (format : Format Node m) : Node → Bias → m Bias :=
  format.record
    [format.field "axis" BiasAxis.parse (fun held value => { held with axis := value }) (fun _ => {}),
      format.field "precision" Precision.parse (fun held value => { held with precision := value })
        (fun held => { held with precision := .unset })]

/-- Reads the sizes of a product. -/
def Extents.read (format : Format Node m) : Node → Extents → m Extents :=
  format.record
    [.of "m" (·.m) (fun held value => { held with m := value }) format.uint32,
      .of "n" (·.n) (fun held value => { held with n := value }) format.uint32,
      .of "k" (·.k) (fun held value => { held with k := value }) format.uint32]

/-- Reads a block size. -/
def Block.read (format : Format Node m) : Node → Block → m Block :=
  format.record
    [.of "m" (·.m) (fun held value => { held with m := value }) format.uint16,
      .of "n" (·.n) (fun held value => { held with n := value }) format.uint16,
      .of "k" (·.k) (fun held value => { held with k := value }) format.uint16]

/-- Reads the splits of a block. -/
def Splits.read (format : Format Node m) : Node → Splits → m Splits :=
  format.record
    [.of "m" (·.m) (fun held value => { held with m := value }) format.uint16,
      .of "n" (·.n) (fun held value => { held with n := value }) format.uint16]

/-- What is left of a problem when the precision of a matrix is cleared. Behind the three precisions come the two
    flags of the transposition, three unused bytes and the first stride. -/
def Problem.clearMemory : PerOperand (Problem → Problem) where
  a held := { held with memory := ⟨.unset, .unset, .unset⟩, transpose := {} }
  b held :=
    { held with
      memory := ⟨held.memory.a, .unset, .unset⟩
      transpose := {}
      leading := { held.leading with a := held.leading.a &&& 0xFFFFFF00 } }
  c held :=
    { held with
      memory := ⟨held.memory.a, held.memory.b, .unset⟩
      transpose := {}
      leading := { held.leading with a := held.leading.a &&& 0xFFFF0000 } }

/-- Reads a problem. -/
def Problem.read (format : Format Node m) : Node → Problem → m Problem :=
  format.record
    [.of "batch" (·.batch) (fun held value => { held with batch := value }) format.int64,
      .of "matrix" (·.extents) (fun held value => { held with extents := value }) (Extents.read format),
      precisionsField format "memory_precisions" (·.memory) (fun held value => { held with memory := value })
        Problem.clearMemory,
      .of "transpose" (·.transpose) (fun held value => { held with transpose := value })
        (Transpose.read format),
      .of "leading_dimensions" (·.leading) (fun held value => { held with leading := value })
        (PerOperand.read format format.uint32),
      .of "load_previous_c" (·.loadPreviousC) (fun held value => { held with loadPreviousC := value })
        format.boolean,
      .of "beta" (·.beta) (fun held value => { held with beta := value }) format.single,
      .of "bias" (·.bias) (fun held value => { held with bias := value }) (Bias.read format)]

/-- What is left of a kernel when the memory precision of a matrix is cleared. Behind the memory precisions come the
    register precisions and the splits. -/
def Descriptor.clearMemory : PerOperand (Descriptor → Descriptor) where
  a held :=
    { held with
      memory := ⟨.unset, .unset, .unset⟩
      register := ⟨.unset, .unset, .unset⟩
      splits := { held.splits with m := 0 } }
  b held :=
    { held with
      memory := ⟨held.memory.a, .unset, .unset⟩
      register := ⟨.unset, .unset, .unset⟩
      splits := ⟨0, held.splits.n &&& 0xFF00⟩ }
  c held :=
    { held with
      memory := ⟨held.memory.a, held.memory.b, .unset⟩
      register := ⟨.unset, .unset, .unset⟩
      splits := ⟨0, 0⟩ }

/-- What is left of a kernel when the register precision of a matrix is cleared. Behind the register precisions come
    the splits, the transposition and the two preferences. -/
def Descriptor.clearRegister : PerOperand (Descriptor → Descriptor) where
  a held :=
    { held with
      register := ⟨.unset, .unset, .unset⟩
      splits := ⟨0, 0⟩
      transpose := { held.transpose with a := false } }
  b held :=
    { held with
      register := ⟨held.register.a, .unset, .unset⟩
      splits := ⟨0, 0⟩
      transpose := {} }
  c held :=
    { held with
      register := ⟨held.register.a, held.register.b, .unset⟩
      splits := ⟨0, 0⟩
      transpose := {}
      asyncLoad := false }

/-- Reads a kernel. -/
def Descriptor.read (format : Format Node m) : Node → Descriptor → m Descriptor :=
  format.record
    [.of "block_dimensions" (·.block) (fun held value => { held with block := value }) (Block.read format),
      .of "leading_block_dimensions" (·.leading) (fun held value => { held with leading := value })
        (PerOperand.read format format.uint16),
      precisionsField format "memory_precisions" (·.memory) (fun held value => { held with memory := value })
        Descriptor.clearMemory,
      precisionsField format "register_precisions" (·.register)
        (fun held value => { held with register := value }) Descriptor.clearRegister,
      .of "splits" (·.splits) (fun held value => { held with splits := value }) (Splits.read format),
      .of "transpose" (·.transpose) (fun held value => { held with transpose := value })
        (Transpose.read format),
      .of "prefer_async_load" (·.asyncLoad) (fun held value => { held with asyncLoad := value })
        format.boolean,
      .of "prefer_async_store" (·.asyncStore) (fun held value => { held with asyncStore := value })
        format.boolean,
      .of "bias" (·.bias) (fun held value => { held with bias := value }) (Bias.read format)]

end Reading

end KernelForge.Gemm
