import KernelForge.Gemm.Source.Multiply

/-!
The text of a kernel for matrix products: constants, the step of eight for both memories, and the kernel
function.
-/

namespace KernelForge.Gemm

open Shader (Stmt)

namespace Kernel

/-- The extent of the last tile along one axis, which is full when the axis divides. -/
def remainder (axis : String) (register : UInt16) : Stmt :=
  .line s!"constant ushort {axis}_remainder = ({axis} % {register} == 0) ? {register} : {axis} % {register};"

/-- The constants of the text. -/
def constantLines (kernel : Kernel) : List Stmt :=
  let descriptor := kernel.descriptor
  [.comment "Matrix dimensions and strides are bound when the pipeline is created.",
    .line "constant uint M [[function_constant(0)]];", .line "constant uint N [[function_constant(1)]];",
    .line "constant uint K [[function_constant(2)]];", .blank,
    .line "constant uint A_leading_dimension [[function_constant(5)]];",
    .line "constant uint B_leading_dimension [[function_constant(6)]];",
    .line "constant uint C_leading_dimension [[function_constant(7)]];", .blank,
    .comment "C = A * B + beta * C when load_previous_C is set.",
    .line "constant bool load_previous_C [[function_constant(10)]];",
    .line "constant float beta [[function_constant(11)]];",
    .line "constant float C_scale = is_function_constant_defined(beta) ? beta : 1;", .blank,
    .line s!"constant bool A_trans = {Shader.boolean descriptor.transpose.a};",
    .line s!"constant bool B_trans = {Shader.boolean descriptor.transpose.b};", .blank,
    .line s!"constant ushort M_group = {descriptor.block.m};",
    .line s!"constant ushort N_group = {descriptor.block.n};",
    .line s!"constant ushort K_group = {descriptor.block.k};", .blank,
    .comment "Thresholds that mark the matrix edge.",
    .line "constant uint M_edge = M - (M % M_group);", .line "constant uint N_edge = N - (N % N_group);",
    .blank, .comment "Extent of the final register tile. A divisible dimension ends in a full tile.",
    remainder "M" kernel.registerM, remainder "N" kernel.registerN,
    .line "constant ushort K_remainder = (K % K_group == 0) ? K_group : K % K_group;",
    .line "constant ushort K_remainder_padded = (K_remainder + 7) / 8 * 8;", .blank,
    .comment "Edge blocks move up and left so no simdgroup reads past the matrix.",
    .line s!"constant ushort M_shift = (M < M_group) ? 0 : {kernel.registerM} - M_remainder;",
    .line s!"constant ushort N_shift = (N < N_group) ? 0 : {kernel.registerN} - N_remainder;", .blank]

/-- The access to an array of register tiles. -/
def tileLookup : List Stmt :=
  [.comment "Indexes into an array of register tiles. The index is a compile-time",
    .comment "constant after unrolling, so the access lowers to a register name.",
    .line "template <typename T>",
    .line "METAL_FUNC thread simdgroup_matrix_storage<T>* get_sram(",
    .line "  thread simdgroup_matrix_storage<T> *sram,", .line "  ushort sram_leading_dim,",
    .line "  ushort2 matrix_origin", .line ") \x7b",
    .line ("  return sram + (matrix_origin.y / 8) * (sram_leading_dim / 8) + " ++
      "(matrix_origin.x / 8);"),
    .line "\x7d", .blank]

/-- The arguments of the kernel function. -/
def arguments (kernel : Kernel) : List String :=
  [s!"device {kernel.memoryName .a} *A [[buffer(0)]]", s!"device {kernel.memoryName .b} *B [[buffer(1)]]",
    s!"device {kernel.memoryName .c} *C [[buffer(2)]]"] ++
    (if kernel.descriptor.bias.axis = .none then []
      else [s!"device {kernel.descriptor.bias.precision.scalarName} *bias [[buffer(3)]]"]) ++
    ["threadgroup uchar *threadgroup_block [[threadgroup(0)]]",
      "uint3 gid [[threadgroup_position_in_grid]]", "ushort sidx [[simdgroup_index_in_threadgroup]]",
      "ushort lane_id [[thread_index_in_simdgroup]]"]

/-- The body of the kernel function. -/
def functionBody (kernel : Kernel) : List Stmt :=
  let m := kernel.registerM
  let n := kernel.registerN
  let splitsN := kernel.descriptor.splits.n
  [.line s!"ushort2 sid(sidx % {splitsN}, sidx / {splitsN});",
    .line "ushort2 morton_offset = morton_order(lane_id);", .blank,
    .comment "Simdgroups past the matrix edge have nothing to compute.",
    .line "uint M_offset = gid.y * M_group;", .line "uint N_offset = gid.x * N_group;",
    .cond s!"M_offset + sid.y * {m} >= M || N_offset + sid.x * {n} >= N" [.line "return;"],
    .line s!"ushort2 offset_in_group(sid.x * {n} + morton_offset.x,",
    .line s!"                        sid.y * {m} + morton_offset.y);", .blank,
    .cond "(M_shift != 0) && (gid.y * M_group >= M_edge)" [.line "M_offset -= M_shift;"],
    .cond "(N_shift != 0) && (gid.x * N_group >= N_edge)" [.line "N_offset -= N_shift;"], .blank] ++
    kernel.startProduct ++ kernel.addBias ++ kernel.directSteps ++ kernel.stagedSteps ++
    kernel.storeProduct

/-- The name of the kernel function. -/
def entryPoint : String := "gemm"

/-- The statements after the headers. -/
def statements (kernel : Kernel) : List Stmt :=
  [.line "using namespace metal;", .blank] ++ kernel.constantLines ++ tileLookup ++
    kernel.multiplyAccumulate .device ++ kernel.multiplyAccumulate .threadgroup ++
    Shader.kernelHead entryPoint kernel.arguments ++ [.scope kernel.functionBody]

/-- The whole text. -/
def source (kernel : Kernel) : String :=
  Shader.preamble ++ Shader.render kernel.statements

/-- The program of a kernel. -/
def program (kernel : Kernel) : Shader.Program where
  entryPoint := entryPoint
  source := kernel.source
  threadgroupMemory := kernel.threadgroupMemory
  threadgroupSize := kernel.threadgroupSize
  constants := constants

end Kernel

/-- The program of a descriptor. -/
def generate (descriptor : Descriptor) : Except Failure Shader.Program :=
  match Kernel.ofDescriptor descriptor with
  | .ok kernel => .ok kernel.program
  | .error defect => .error defect.failure

end KernelForge.Gemm
