import KernelForge.Gemm.Kernel

/-!
The part of a kernel's text that fills the accumulator before the multiplication and empties it afterwards.
A block inside of the matrix moves between registers and device memory; one at the edge goes through
threadgroup memory, because it is shifted over its neighbours and must not store what lies outside.
-/

namespace KernelForge.Gemm.Kernel

open Shader (Stmt tileLoop staged)

/-- The name of the stride of a matrix in device memory. -/
def strideName (operand : Operand) : String :=
  operand.name ++ "_leading_dimension"

/-- The scalar type of a matrix in memory. -/
def memoryName (kernel : Kernel) (operand : Operand) : String :=
  (kernel.memory operand).scalarName

/-- The scalar type of a matrix in registers. -/
def registerName (kernel : Kernel) (operand : Operand) : String :=
  (kernel.register operand).scalarName

/-- When a threadgroup may move its block without staging. -/
def fastPath (kernel : Kernel) : String :=
  (if kernel.descriptor.asyncStore then "false" else "(M >= M_group) && (N >= N_group)") ++
    " && (gid.y * M_group < M_edge) && (gid.x * N_group < N_edge)"

/-- A loop over the accumulator tiles of a SIMD group. -/
def eachTile (kernel : Kernel) (body : List Stmt) : Stmt :=
  tileLoop "m" kernel.registerM
    [tileLoop "n" kernel.registerN
      ([.line "ushort2 origin(n, m);",
        .line s!"auto C = get_sram(C_sram, {kernel.registerN}, origin);"] ++ body)]

/-- A pointer into a matrix. -/
def offsetPointer (scalar target matrix stride offset : String) : Stmt :=
  .line s!"auto {target} = simdgroup_matrix_storage<{scalar}>::apply_offset({matrix}, {stride}, {offset});"

/-- The declaration of the part of a block that lies in the matrix. -/
def productTile : List Stmt :=
  [.line "ushort2 C_tile(min(uint(N_group), N - C_offset.x),",
    .line "               min(uint(M_group), M - C_offset.y));"]

/-- The accumulator from the previous product. -/
def loadProduct (kernel : Kernel) : List Stmt :=
  let memory := kernel.memoryName .c
  let stride := strideName .c
  let blockStride := kernel.leading.c
  let load := Precision.loadFunction (kernel.memory .c) (kernel.register .c)
  [.condElse kernel.fastPath
      [.line "uint2 C_offset(N_offset + offset_in_group.x, M_offset + offset_in_group.y);",
        offsetPointer memory "C_src" "C" stride "C_offset",
        kernel.eachTile [.line s!"C->{load}(C_src, {stride}, origin);"]]
      ([.line s!"auto C_block = (threadgroup {memory}*)(threadgroup_block);",
        offsetPointer memory "C_block_src" "C_block" s!"{blockStride}" "offset_in_group"] ++
        staged
          ([.line "uint2 C_offset(N_offset, M_offset);"] ++ productTile ++
            [offsetPointer memory "C_src" "C" stride "C_offset", .blank, .line "simdgroup_event event;",
              .line s!"event.async_copy(C_block, {blockStride}, C_tile, C_src, {stride}, C_tile);",
              .line "simdgroup_event::wait(1, &event);"]) ++
        [kernel.eachTile [.line s!"C->{load}(C_block_src, {blockStride}, origin);"], .barrier]),
    .cond "C_scale != 1"
      [kernel.eachTile [.line s!"*(C->thread_elements()) *= {kernel.registerName .c}(C_scale);"]]]

/-- The accumulator before the multiplication. -/
def startProduct (kernel : Kernel) : List Stmt :=
  let register := kernel.registerName .c
  let tiles := (kernel.registerM / 8) * (kernel.registerN / 8)
  [.line s!"simdgroup_matrix_storage<{register}> C_sram[{tiles}];",
    .condElse "load_previous_C" kernel.loadProduct
      [kernel.eachTile [.line s!"*C = simdgroup_matrix_storage<{register}>(0);"]],
    .blank]

/-- The bias, added to the accumulator. Lanes beyond the edge read the last element; what they compute is
    never stored. -/
def addBias (kernel : Kernel) : List Stmt :=
  let register := kernel.registerName .c
  let add : List Stmt :=
    [.line s!"auto C = get_sram(C_sram, {kernel.registerN}, ushort2(n, m));",
      .line "*(C->thread_elements()) += bias_value;"]
  if kernel.descriptor.bias.axis = .none then []
  else if kernel.descriptor.bias.axis = .columns then
    [.comment "Bias along N.",
      tileLoop "n" kernel.registerN
        [.line "uint column = N_offset + offset_in_group.x + n;",
          .line s!"vec<{register}, 2> bias_value({register}(bias[min(column, N - 1)]),",
          .line s!"                        {register}(bias[min(column + 1, N - 1)]));",
          tileLoop "m" kernel.registerM add],
      .blank]
  else if kernel.descriptor.bias.axis = .rows then
    [.comment "Bias along M.",
      tileLoop "m" kernel.registerM
        [.line "uint row = M_offset + offset_in_group.y + m;",
          .line s!"vec<{register}, 2> bias_value({register}(bias[min(row, M - 1)]));",
          tileLoop "n" kernel.registerN add],
      .blank]
  else [.blank]

/-- The accumulator into the product. -/
def storeProduct (kernel : Kernel) : List Stmt :=
  let memory := kernel.memoryName .c
  let stride := strideName .c
  let blockStride := kernel.leading.c
  let store := Precision.storeFunction (kernel.memory .c) (kernel.register .c)
  [.condElse kernel.fastPath
    [.line "uint2 C_offset(N_offset + offset_in_group.x, M_offset + offset_in_group.y);",
      offsetPointer memory "C_dst" "C" stride "C_offset",
      kernel.eachTile [.line s!"C->{store}(C_dst, {stride}, origin);"]]
    [.comment "Edge blocks overlap their neighbours, so stores go through threadgroup memory.",
      .line s!"auto C_block = (threadgroup {memory}*)(threadgroup_block);",
      offsetPointer memory "C_block_dst" "C_block" s!"{blockStride}" "offset_in_group",
      .barrier,
      kernel.eachTile [.line s!"C->{store}(C_block_dst, {blockStride}, origin);"],
      .barrier,
      .blank,
      .cond "sidx == 0"
        ([.line "uint2 C_offset(gid.x * N_group, gid.y * M_group);"] ++ productTile ++
          [offsetPointer memory "C_dst" "C" stride "C_offset", .blank,
            .comment "A shifted block holds its garbage rows and columns at the top left.",
            .cond "(M_shift != 0) || (N_shift != 0)"
              [.line "ushort2 C_block_shift(0, 0);",
                .cond "(M_shift != 0) && (C_offset.y >= M_edge)" [.line "C_block_shift.y = M_shift;"],
                .cond "(N_shift != 0) && (C_offset.x >= N_edge)" [.line "C_block_shift.x = N_shift;"],
                .line (s!"C_block = simdgroup_matrix_storage<{memory}>::apply_offset(C_block, " ++
                  s!"{blockStride}, C_block_shift);")],
            .blank, .line "simdgroup_event event;",
            .line s!"event.async_copy(C_dst, {stride}, C_tile, C_block, {blockStride}, C_tile);"])]]

end KernelForge.Gemm.Kernel
