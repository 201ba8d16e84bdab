import KernelForge.Attention.Source.Accumulation
import KernelForge.Attention.Source.RowTerm
import KernelForge.Attention.Source.Softmax

/-!
The text of an attention kernel: constants, the preparation of what stays in registers, the traversal of the
other sequence, and the results.
-/

namespace KernelForge.Attention

open Shader (Stmt)

namespace Kernel

/-- The constants of the text. -/
def constantLines (kernel : Kernel) : List Stmt :=
  let name := kernel.traversalName
  let traversal := kernel.descriptor.block.traversal
  List.flatten
    [[.comment "R is the output sequence length, C the input sequence length.",
        .line "constant uint R [[function_constant(0)]];", .line "constant uint C [[function_constant(1)]];",
        .blank],
      if kernel.descriptor.type.hasLoop then
        [.comment "Extent of the last traversal block, and the same rounded up to a tile.",
          .line (s!"constant ushort traversal_remainder = ({name} % {traversal} == 0) ? {traversal} : " ++
            s!"{name} % {traversal};"),
          .line "constant ushort padded_traversal_edge = (traversal_remainder + 7) / 8 * 8;",
          .line ("constant ushort traversal_remainder_floor = traversal_remainder - " ++
            "(traversal_remainder % 8);"),
          .blank]
      else [],
      if kernel.operands.contains .dST then
        [.comment "dS rows are padded to a multiple of 32 columns.",
          .line "constant uint dST_leading_dimension = (C + 31) / 32 * 32;", .blank]
      else []]

/-- What happens before the traversal. -/
def setup (kernel : Kernel) : List Stmt :=
  let type := kernel.descriptor.type
  if type.pass = .forward then
    kernel.cacheLoad .q ++ kernel.allocate .o ++
      [.line "float m = -numeric_limits<float>::max();",
        .line "float l = numeric_limits<float>::denorm_min();", .blank]
  else if type.pass = .backwardQuery then
    List.flatten
      [if type.secondary then kernel.cacheLoad .q else [], kernel.cacheLoad .dO, kernel.allocate .dQ,
        if kernel.operands.contains .l then [.line s!"float L_term = float(L[{kernel.clampedOffset}]);"] else [],
        [.line "float D_term;"], kernel.rowTerm]
  else if type.pass = .backwardKeyValue then
    kernel.cacheLoad .k ++ kernel.cacheLoad .v ++ kernel.allocate .dV ++ kernel.allocate .dK
  else []

/-- What happens after the traversal. -/
def cleanup (kernel : Kernel) : List Stmt :=
  let type := kernel.descriptor.type
  let guardName := s!"{threadOffset} < {kernel.parallelName}"
  if type.pass = .forward then
    kernel.cacheStore .o ++
      (if kernel.operands.contains .l then
        [.cond guardName
          [.comment "Base 2 log-sum-exp of the scaled row.", .line "float L_term = m + fast::log2(l);",
            .line s!"L[{threadOffset}] = {kernel.memoryName .l}(L_term);"]] else [])
  else if type.pass = .backwardQuery then
    kernel.cacheStore .dQ ++
      [.cond guardName [.line s!"D[{threadOffset}] = {kernel.memoryName .d}(D_term);"]]
  else if type.pass = .backwardKeyValue then kernel.cacheStore .dV ++ kernel.cacheStore .dK
  else []

/-- One step of the traversal. -/
def traversalStep (kernel : Kernel) : List Stmt :=
  let type := kernel.descriptor.type
  if type.pass = .forward then
    List.flatten
      [[.comment "S = Q * K^T"], kernel.outerProduct .q .k .s, kernel.maskEdge,
        [.comment "(m, l, P) = softmax(m, l, S * scale)"], kernel.onlineSoftmax,
        [.comment "O = O * correction + P * V, divided by l on the last block"],
        kernel.accumulate
          { weights := .p, right := .v, result := .o, everyScale := some "correction",
            lastScale := some "fast::divide(1, l)" }]
  else if type.pass = .backwardQuery then
    List.flatten
      [[.comment "S = Q * K^T"], kernel.outerProduct .q .k .s,
        [.comment "P = exp2(S * scale - L)"], kernel.probabilities "L_term",
        [.comment "dP = dO * V^T"], kernel.outerProduct .dO .v .dP,
        [.comment "dS = P * (dP * scale - D)"], kernel.scoreDerivatives "D_term",
        [.comment "dQ += dS * K"], kernel.accumulate { weights := .dS, right := .k, result := .dQ }]
  else if type.pass = .backwardKeyValue then
    List.flatten
      [[.comment "S^T = K * Q^T"], kernel.outerProduct .k .q .s,
        [.comment "P^T = exp2(S^T * scale - L)"], kernel.columnTerms .l,
        kernel.probabilities "L_terms[c / 8]",
        [.comment "dV += P^T * dO"], kernel.accumulate { weights := .p, right := .dO, result := .dV },
        [.comment "dP^T = V * dO^T"], kernel.outerProduct .v .dO .dP,
        [.comment "dS^T = P^T * (dP^T * scale - D)"], kernel.columnTerms .d,
        kernel.scoreDerivatives "D_terms[c / 8]",
        if type.secondary then
          .comment "dK += dS^T * Q" :: kernel.accumulate { weights := .dS, right := .q, result := .dK }
        else kernel.storeScoreDerivatives]
  else []

/-- The traversal. -/
def traversal (kernel : Kernel) : List Stmt :=
  let index := kernel.traversalIndex
  if kernel.descriptor.type.hasLoop then
    [.comment "Outer loop over the traversal dimension.",
      .loop .none
        (s!"uint {index} = 0; {index} < {kernel.traversalName}; {index} += " ++
          s!"{kernel.descriptor.block.traversal}")
        kernel.traversalStep,
      .blank]
  else []

/-- The arguments of the kernel function. -/
def arguments (kernel : Kernel) : List String :=
  (kernel.operands.toList.map fun operand =>
    s!"device {kernel.memoryName operand} *{operand.name} [[buffer({operand.binding?.getD 0})]]") ++
    ["threadgroup uchar *threadgroup_block [[threadgroup(0)]]", "uint gid [[threadgroup_position_in_grid]]",
      "ushort sidx [[simdgroup_index_in_threadgroup]]", "ushort lane_id [[thread_index_in_simdgroup]]"]

/-- The body of the kernel function. -/
def functionBody (kernel : Kernel) : List Stmt :=
  [.line "ushort2 morton_offset = morton_order(lane_id);",
    .line s!"uint {groupOffset} = gid * {kernel.descriptor.block.parallelization};", .blank,
    .comment "Threadgroups past the end of the sequence have nothing to compute.",
    .cond s!"{groupOffset} >= {kernel.parallelName}" [.line "return;"], .blank] ++
    kernel.setup ++ kernel.traversal ++ kernel.cleanup

/-- The name of the kernel function. -/
def entryPoint : String := "attention"

/-- The statements after the headers. -/
def statements (kernel : Kernel) : List Stmt :=
  [.line "using namespace metal;", .blank] ++ kernel.constantLines ++
    Shader.kernelHead entryPoint kernel.arguments ++ [.scope kernel.functionBody]

/-- The whole text. -/
def source (kernel : Kernel) : String :=
  Shader.preamble ++ Shader.render kernel.statements

/-- The program of a kernel. -/
def program (kernel : Kernel) : Shader.Program where
  entryPoint := entryPoint
  source := kernel.source
  threadgroupMemory := kernel.threadgroupMemory
  threadgroupSize := kernel.threadgroupSize
  constants := constants

end Kernel

/-- The program of a descriptor. -/
def generate (descriptor : Descriptor) : Except Failure Shader.Program :=
  match Kernel.ofDescriptor descriptor with
  | .ok kernel => .ok kernel.program
  | .error defect => .error defect.failure

end KernelForge.Attention
