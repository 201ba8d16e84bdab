import KernelForge.Device
import KernelForge.Attention.Pass
import KernelForge.Shader.Program

/-!
An attention problem as a caller states it: the two sequence lengths and the head dimension, which operands
are stored in 16 bits, and which are stored with rows and columns exchanged. The sequence lengths are bound
through function constants; the head dimension is part of the text of a kernel.
-/

namespace KernelForge.Attention

/-- Output sequence, input sequence and head dimension. -/
structure Extents where
  row : UInt32
  column : UInt32
  head : UInt16
  deriving DecidableEq, Repr, Inhabited

/-- The wording of sizes in messages. -/
def Extents.display (extents : Extents) : String :=
  s!"\x7bRow:{extents.row} Column:{extents.column} Head:{extents.head}\x7d"

/-- Which matrices are stored with the head dimension first. Derivatives follow their matrix. -/
structure Transpose where
  q : Bool := false
  k : Bool := false
  v : Bool := false
  o : Bool := false
  deriving DecidableEq, Repr, Inhabited

/-- An attention problem. -/
structure Problem where
  /-- Queries, keys and values in 16 bits. -/
  lowInputs : Bool := false
  /-- Row terms and stored scores in 16 bits. -/
  lowIntermediates : Bool := false
  /-- Outputs and derivatives in 16 bits. -/
  lowOutputs : Bool := false
  /-- Narrow registers for the attention matrix. -/
  aggressive : Bool := false
  extents : Extents
  transpose : Transpose := {}
  deriving DecidableEq, Repr, Inhabited

/-- The slots that every attention kernel declares. -/
def constants : List Shader.FunctionConstant :=
  [⟨0, "R", .uint⟩, ⟨1, "C", .uint⟩]

namespace Problem

/-- A problem with all its sizes. -/
def check (problem : Problem) : Except Failure Unit :=
  if problem.extents.row = 0 || problem.extents.column = 0 || problem.extents.head = 0 then
    .error (.of .descriptorIncomplete s!"matrix {problem.extents.display}")
  else .ok ()

/-- The operands stored with the head dimension first. -/
def transposed (problem : Problem) : OperandSet :=
  let pick (chosen : Bool) (operands : List Operand) := if chosen then operands else []
  .ofList (pick problem.transpose.q [.q, .dQ] ++ pick problem.transpose.k [.k, .dK] ++
    pick problem.transpose.v [.v, .dV] ++ pick problem.transpose.o [.o, .dO])

/-- The formats in memory. -/
def memoryPrecisions (problem : Problem) : Precisions :=
  let low (chosen : Bool) (precision : Precision) : Precision := if chosen then precision else .fp32
  Precisions.unset
    |>.setAll [.q, .k, .v] (low problem.lowInputs .fp16)
    |>.set .dO (low problem.lowInputs .bf16)
    |>.set .l (low problem.lowIntermediates .fp16)
    |>.setAll [.d, .dST] (low problem.lowIntermediates .bf16)
    |>.set .o (low problem.lowOutputs .fp16)
    |>.setAll [.dV, .dK, .dQ] (low problem.lowOutputs .bf16)

/-- The formats in registers on a generation: inputs as they are stored, widened where the device cannot
    compute in them, and everything else in 32 bits unless the problem asks for less. -/
def registerPrecisions (problem : Problem) (family : Family) : Precisions :=
  let memory := problem.memoryPrecisions
  let widened (precision : Precision) : Precision :=
    if precision = .bf16 && !family.nativeBfloat then .fp32 else precision
  let inputs := Precisions.unset
    |>.set .q (widened (memory.get .q))
    |>.set .k (widened (memory.get .k))
    |>.set .v (widened (memory.get .v))
    |>.set .dO (widened (memory.get .dO))
  let wide := inputs.setAll [.l, .d, .s, .p, .dP, .dS, .o, .dV, .dK, .dQ, .dST] .fp32
  if problem.aggressive then
    wide
      |>.set .l (memory.get .l)
      |>.set .d (widened (memory.get .d))
      |>.set .s (if problem.lowInputs then .fp16 else .fp32)
      |>.set .p .fp16
      |>.set .dS (widened .bf16)
  else wide

/-- What a pipeline for the problem binds. -/
def boundConstants (problem : Problem) : List Shader.BoundConstant :=
  List.zipWith (fun constant content => ⟨constant, content⟩) constants
    [.uint problem.extents.row, .uint problem.extents.column]

/-- The row stride of the stored derivative of the scores: rows of the input sequence, filled up to a
    multiple of 32, in 32 bit arithmetic. -/
def scoreStride (problem : Problem) : UInt32 :=
  (problem.extents.column + 31) / 32 * 32

end Problem

end KernelForge.Attention
