import KernelForge.Gemm.Source.Accumulator

/-!
The part of a kernel's text that multiplies. The depth is walked in steps of eight. Steps that lie inside of
the matrices may read device memory directly; the others are copied to threadgroup memory, where the last one
is filled up with zeros to a multiple of eight.
-/

namespace KernelForge.Gemm.Kernel

open Shader (Stmt AddressSpace tileLoop staged)

/-- The step of eight for factors in one memory. -/
def multiplyAccumulate (kernel : Kernel) (space : AddressSpace) : List Stmt :=
  let stride (operand : Operand) : String :=
    if space = .threadgroup then s!"{kernel.leading.get operand}" else strideName operand
  let load (operand : Operand) : String :=
    Precision.loadFunction (kernel.memory operand) (kernel.register operand)
  let loadA := load .a
  let loadB := load .b
  let strideA := stride .a
  let strideB := stride .b
  [.line "METAL_FUNC void multiply_accumulate(",
    .indent
      [.line s!"const {space.keyword} {kernel.memoryName .a} *A_src,",
        .line s!"const {space.keyword} {kernel.memoryName .b} *B_src,",
        .line s!"thread simdgroup_matrix_storage<{kernel.registerName .a}> *A_sram,",
        .line s!"thread simdgroup_matrix_storage<{kernel.registerName .b}> *B_sram,",
        .line s!"thread simdgroup_matrix_storage<{kernel.registerName .c}> *C_sram,",
        .line "ushort k"],
    .line ")",
    .scope
      [tileLoop "m" kernel.registerM
          [.line "auto A = get_sram(A_sram, 8, ushort2(0, m));",
            .line s!"A->{loadA}(A_src, {strideA}, ushort2(k, m), A_trans);"],
        tileLoop "n" kernel.registerN
          [.line s!"auto B = get_sram(B_sram, {kernel.registerN}, ushort2(n, 0));",
            .line s!"B->{loadB}(B_src, {strideB}, ushort2(n, k), B_trans);"],
        tileLoop "m" kernel.registerM
          [tileLoop "n" kernel.registerN
            [.line "auto A = get_sram(A_sram, 8, ushort2(0, m));",
              .line s!"auto B = get_sram(B_sram, {kernel.registerN}, ushort2(n, 0));",
              .line s!"auto C = get_sram(C_sram, {kernel.registerN}, ushort2(n, m));",
              .line "C->multiply(*A, *B);"]]],
    .blank]

/-- Where the staged part of the depth starts. Direct reads are only safe when shifted blocks lie inside of
    the matrix. -/
def stagedStart (kernel : Kernel) : String :=
  if kernel.descriptor.asyncLoad then "0"
  else "((M >= M_group) && (N >= N_group) ? (K - (K % K_group)) : 0)"

/-- A pointer into a factor. -/
def factorPointer (scalar target matrix stride offset trans : String) : Stmt :=
  .line (s!"auto {target} = simdgroup_matrix_storage<{scalar}>::apply_offset({matrix}, {stride}, " ++
    s!"{offset}, {trans});")

/-- The tiles of both factors in registers. -/
def factorTiles (kernel : Kernel) : List Stmt :=
  [.line s!"simdgroup_matrix_storage<{kernel.registerName .a}> A_sram[{kernel.registerM / 8}];",
    .line s!"simdgroup_matrix_storage<{kernel.registerName .b}> B_sram[{kernel.registerN / 8}];"]

/-- The steps that read device memory. -/
def directSteps (kernel : Kernel) : List Stmt :=
  [.comment "Iterations that read device memory directly.",
    .loop .none s!"uint k = 0; k < {kernel.stagedStart}; k += 8"
      ([.line "uint2 A_offset(k, M_offset);", .line "uint2 B_offset(N_offset, k);",
        .line "A_offset += uint2(morton_offset.x, offset_in_group.y);",
        .line "B_offset += uint2(offset_in_group.x, morton_offset.y);", .blank,
        factorPointer (kernel.memoryName .a) "A_src" "A" (strideName .a) "A_offset" "A_trans",
        factorPointer (kernel.memoryName .b) "B_src" "B" (strideName .b) "B_offset" "B_trans"] ++
        kernel.factorTiles ++
        [.line "multiply_accumulate(A_src, B_src, A_sram, B_sram, C_sram, 0);"]),
    .blank]

/-- The copy of one step of both factors to threadgroup memory. -/
def stageFactors (kernel : Kernel) : List Stmt :=
  let strideA := strideName .a
  let strideB := strideName .b
  staged
    [.line "uint2 A_offset(k, M_offset);", .line "uint2 B_offset(N_offset, k);",
      factorPointer (kernel.memoryName .a) "A_src" "A" strideA "A_offset" "A_trans",
      factorPointer (kernel.memoryName .b) "B_src" "B" strideB "B_offset" "B_trans", .blank,
      .line "ushort M_tile_dimension = min(uint(M_group), M - M_offset);",
      .line "ushort N_tile_dimension = min(uint(N_group), N - N_offset);",
      .line "ushort K_tile_dimension = min(uint(K_group), K - k);",
      .line "ushort K_tile_padded = min(uint(K_group), (K + K_remainder_padded - K_remainder) - k);",
      .blank, .line "ushort2 A_tile_src(K_tile_dimension, M_tile_dimension);",
      .line "ushort2 B_tile_src(N_tile_dimension, K_tile_dimension);",
      .line "ushort2 A_tile_dst(K_tile_padded, M_tile_dimension);",
      .line "ushort2 B_tile_dst(N_tile_dimension, K_tile_padded);", .blank,
      .line "simdgroup_event events[2];",
      .line (s!"events[0].async_copy(A_block, {kernel.leading.a}, A_tile_dst, A_src, {strideA}, " ++
        "A_tile_src, A_trans);"),
      .line (s!"events[1].async_copy(B_block, {kernel.leading.b}, B_tile_dst, B_src, {strideB}, " ++
        "B_tile_src, B_trans);"),
      .line "simdgroup_event::wait(2, events);"]

/-- The steps that read threadgroup memory. -/
def stagedSteps (kernel : Kernel) : List Stmt :=
  let step : List Stmt :=
    [.line "multiply_accumulate(A_block_src, B_block_src, A_sram, B_sram, C_sram, k);"]
  [.comment "Iterations staged through threadgroup memory. The final block is",
    .comment "zero-padded to a multiple of 8 along K.",
    .loop .none s!"uint k = {kernel.stagedStart}; k < K; k += K_group"
      ([.line s!"auto A_block = (threadgroup {kernel.memoryName .a}*)(threadgroup_block);",
        .line (s!"auto B_block = (threadgroup {kernel.memoryName .b}*)(threadgroup_block + " ++
          s!"{kernel.blockBytes .a});")] ++
        kernel.stageFactors ++
        [.blank, .line "ushort2 A_block_offset(morton_offset.x, offset_in_group.y);",
          .line "ushort2 B_block_offset(offset_in_group.x, morton_offset.y);",
          factorPointer (kernel.memoryName .a) "A_block_src" "A_block" s!"{kernel.leading.a}"
            "A_block_offset" "A_trans",
          factorPointer (kernel.memoryName .b) "B_block_src" "B_block" s!"{kernel.leading.b}"
            "B_block_offset" "B_trans"] ++
        kernel.factorTiles ++
        [.loop .full "ushort k = 0; k < K_remainder_padded; k += 8" step, .blank,
          .comment "Only the last block is partial; every other block runs the rest of K_group.",
          .cond "k + K_group < K"
            [.loop .full "ushort k = K_remainder_padded; k < K_group; k += 8" step, .barrier]]),
    .blank]

end KernelForge.Gemm.Kernel
