import KernelForge.Random
import KernelForge.Text.Decimal
import KernelForge.Gemm.Reference
import KernelForge.Gemm.Emulation
import KernelForge.Attention.Reference
import KernelForge.Attention.Emulation
import KernelForge.Attention.Heuristic

/-!
Verification of kernels: they are emulated in single precision on random inputs and compared with references
in double precision. A report gives the greatest deviation of every output, relative to the greatest
magnitude of what it should be.
-/

namespace KernelForge.Verification

/-- The deviation of one output. -/
structure OutputError where
  name : String
  error : Float

/-- What a verification found. -/
structure Report where
  outputs : List OutputError

namespace Report

/-- The greatest deviation; the first that is no number wins. -/
def greatest (report : Report) : Float :=
  match report.outputs.find? (·.error.isNaN) with
  | some output => output.error
  | none => report.outputs.foldl (fun held output => greaterDouble held output.error) 0

/-- A deviation as it is written. -/
def figure (value : Float) : String :=
  Text.general 3 value

/-- A text filled up with blanks. -/
def filled (width : Nat) (text : String) : String :=
  text ++ String.ofList (List.replicate (width - text.length) ' ')

/-- A line for each output. -/
def render (report : Report) (name : String) (tolerance : Float) : String :=
  String.join (report.outputs.map fun output =>
    let verdict := if output.error ≤ tolerance then "ok" else "FAIL"
    s!"{name} {filled 3 output.name} max relative error {figure output.error} " ++
      s!"(tolerance {figure tolerance}) {verdict}\n")

/-- The report fails when a deviation is not within the tolerance. -/
def check (report : Report) (name : String) (tolerance : Float) : Except Failure Unit :=
  if report.greatest ≤ tolerance then .ok ()
  else .error (.plain
    s!"{name}: max relative error {figure report.greatest} exceeds {figure tolerance}")

end Report

/-- What can be expected of kernels whose narrowest format in memory is this. -/
def tolerance (precision : Precision) : Float :=
  if precision = .fp16 then 5e-3
  else if precision = .bf16 then 5e-2
  else 1e-5

/-- The format with the fewest bits behind the point. -/
def narrowest (precisions : List Precision) : Precision :=
  if precisions.contains .bf16 then .bf16
  else if precisions.contains .fp16 then .fp16
  else .fp32

/-- What can be expected of the attention kernels of a problem. Roundings of 32 bits add up in the softmax
    and its derivatives. -/
def attentionTolerance (problem : Attention.Problem) : Float :=
  if problem.lowInputs || problem.lowIntermediates || problem.lowOutputs || problem.aggressive then
    tolerance .bf16
  else tolerance .fp32 * 10

/-- The greatest deviation relative to the greatest magnitude, while all numbers are finite. -/
def deviation (actual : Array Float32) : List Float → Nat → Float × Float → Except Failure Float
  | [], _, (difference, scale) => .ok (if scale == 0 then difference else difference / scale)
  | expected :: rest, index, (difference, scale) => do
    let value := (← readCell actual index).toFloat
    if value.isNaN || value.isInf then return Float.ofBits 0x7FF0000000000000
    else
      deviation actual rest (index + 1)
        (greaterDouble difference (value - expected).abs, greaterDouble scale expected.abs)

/-- The greatest difference between an output and what it should be, relative to the greatest magnitude of
    the latter. An output that is not finite is infinitely far off. -/
def maxRelativeError (actual : Array Float32) (expected : List Float) : Except Failure Float :=
  deviation actual expected 0 (0, 0)

/-- Random numbers of a format. -/
def draw (precision : Precision) (count : Nat) (random : RandomState) : Array Float32 × RandomState :=
  let (values, next) := random.singles count
  (precision.roundAll values, next)

/-- The buffers of a problem in single precision. -/
def gemmBuffers (problem : Gemm.Problem) (a b c bias : Array Float32) : Gemm.Buffers Float32 :=
  ⟨a, b, c, bias, problem.scale⟩

/-- The same buffers in double precision. -/
def widenGemm (buffers : Gemm.Buffers Float32) : Gemm.Buffers Float :=
  ⟨buffers.a.map Float32.toFloat, buffers.b.map Float32.toFloat, buffers.c.map Float32.toFloat,
    buffers.bias.map Float32.toFloat, buffers.scale.toFloat⟩

/-- The same buffers in double precision. -/
def widenAttention (buffers : Attention.Buffers Float32) : Attention.Buffers Float :=
  ⟨buffers.contents.map fun content => content.map Float32.toFloat⟩

/-- Random buffers for a matrix product. -/
def randomGemmBuffers (descriptor : Gemm.Descriptor) (problem : Gemm.Problem) (random : RandomState) :
    Gemm.Buffers Float32 :=
  let size (operand : Gemm.Operand) : Nat := (problem.bufferSize operand).toNatClampNeg
  let (a, random) := draw problem.memory.a (size .a) random
  let (b, random) := draw problem.memory.b (size .b) random
  let (c, random) := draw problem.memory.c (size .c) random
  let (bias, _) := draw descriptor.bias.precision problem.biasSize.toNat random
  gemmBuffers problem a b c bias

/-- Emulates a kernel of a matrix product and compares the product. -/
def verifyGemm (descriptor : Gemm.Descriptor) (problem : Gemm.Problem) (random : RandomState) :
    Except Failure Report := do
  let kernel ← (Gemm.Kernel.ofDescriptor descriptor).mapError Gemm.KernelDefect.failure
  let buffers := randomGemmBuffers descriptor problem random
  let expected ← Gemm.multiply problem (widenGemm buffers)
  let product ← (Gemm.Launch.mk kernel problem buffers).run
  let columns := problem.extents.n.toNat
  let actual := (List.range (problem.extents.m.toNat * columns)).map fun index =>
    product.getD (problem.position .c (index / columns) (index % columns)) 0
  return ⟨[⟨"C", ← maxRelativeError actual.toArray expected.toList⟩]⟩

/-- Random inputs of attention, and cleared outputs. -/
def randomAttentionBuffers (problem : Attention.Problem) (random : RandomState) :
    Attention.Buffers Float32 :=
  let inputs : List Attention.Operand := [.q, .k, .v, .dO]
  let (drawn, _) := inputs.foldl (fun (held, random) operand =>
    let (values, next) :=
      draw (problem.memoryPrecisions.get operand) (problem.bufferSize operand).toNatClampNeg random
    (held.set operand values, next)) ((Attention.Buffers.empty : Attention.Buffers Float32), random)
  drawn.allocate problem [.o, .l, .d, .dQ, .dK, .dV] 0

/-- Runs one pass with the kernel that the heuristics choose. -/
def runPass (problem : Attention.Problem) (device : Device) (tables : Tuning.Tables)
    (buffers : Attention.Buffers Float32) (pass : Attention.Pass) :
    Except Failure (Attention.Buffers Float32) := do
  let inKernel := Failure.within s!"{pass.name} kernel"
  let descriptor ← (problem.descriptor ⟨pass, true⟩ device tables).mapError inKernel
  let kernel ← (Attention.Kernel.ofDescriptor descriptor).mapError fun defect => inKernel defect.failure
  ((Attention.Launch.mk kernel problem).run buffers).mapError (Failure.within s!"{pass.name} pass")

/-- Emulates the kernels of a training step and compares the output, the row terms and the derivatives. -/
def verifyAttention (problem : Attention.Problem) (device : Device) (tables : Tuning.Tables)
    (random : RandomState) : Except Failure Report := do
  let start := randomAttentionBuffers problem random
  let buffers ← Attention.Pass.all.foldlM (runPass problem device tables) start
  let wide := widenAttention buffers
  let output ← Attention.Reference.forward problem wide
  let gradients ← Attention.Reference.backward problem wide
  let scale : Float := Exponential.inverseRoot problem.extents.head.toNat
  let expectations : List (Attention.Operand × List Float) :=
    [(.o, output.o.flatten), (.l, output.l), (.d, gradients.d.map (· * scale)), (.dQ, gradients.dQ.flatten),
      (.dK, gradients.dK.flatten), (.dV, gradients.dV.flatten)]
  let outputs ← expectations.mapM fun (operand, expected) => do
    let actual ← buffers.rows problem operand
    return ⟨operand.name, ← maxRelativeError actual.flatten.toArray expected⟩
  return ⟨outputs⟩

end KernelForge.Verification
