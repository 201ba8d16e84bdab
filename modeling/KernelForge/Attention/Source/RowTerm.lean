import KernelForge.Attention.Source.Layout

/-!
The text of the row term of the backward pass: the sum of the products of the output and its derivative along
a row, over the root of the head dimension. Whole tiles are read from device memory; what is left of the head
dimension is staged and filled up with zeros.
-/

namespace KernelForge.Attention.Kernel

open Shader (Stmt tileLoop fenced)

/-- Declares a tile of an operand and loads it. -/
def tileLoad (kernel : Kernel) (operand : Operand) (source stride origin : String) : List Stmt :=
  [.line s!"simdgroup_matrix_storage<{kernel.registerName operand}> {operand.name}_tile;",
    .line (s!"{operand.name}_tile.{kernel.loadName operand}({source}, {stride}, {origin}, " ++
      s!"{kernel.transposedName operand});")]

/-- The whole tiles of the head dimension. -/
def rowTermTiles (kernel : Kernel) (whole : UInt16) : List Stmt :=
  let start := s!"uint2(morton_offset.x, {kernel.clampedOffset})"
  let source (operand : Operand) : Stmt :=
    kernel.pointer operand s!"auto {operand.name}_src" operand.name (kernel.stride operand) start
      (kernel.transposedName operand)
  (if kernel.isCached .dO then [] else [source .dO]) ++
    [source .o,
      tileLoop "d" whole
        ((if kernel.isCached .dO then
            [.line "float2 dO_value = float2(*dO_sram[d / 8].thread_elements());"]
          else
            kernel.tileLoad .dO "dO_src" (kernel.stride .dO) "ushort2(d, 0)" ++
              [.line "float2 dO_value = float2(*dO_tile.thread_elements());"]) ++
          kernel.tileLoad .o "O_src" (kernel.stride .o) "ushort2(d, 0)" ++
          [.line "float2 O_value = float2(*O_tile.thread_elements());",
            .line "D_term_accumulate += dO_value * O_value;"])]

/-- The stride of the staged last columns of an operand. -/
def edgeStride (kernel : Kernel) (operand : Operand) : UInt16 :=
  if kernel.isTransposed operand then kernel.descriptor.block.parallelization else 8

/-- Where the staged last columns of an operand start. -/
def edgeOffset (kernel : Kernel) (operand : Operand) : Nat :=
  if operand = .dO then 0
  else kernel.descriptor.block.parallelization.toNat * 8 * (kernel.memory .dO).size

/-- The copy of the last columns of one operand, as one of two events. -/
def edgeCopy (kernel : Kernel) (event : Nat) (operand : Operand) (whole : UInt16) : List Stmt :=
  let name := operand.name
  let trans := kernel.transposedName operand
  [kernel.pointer operand s!"auto {name}_src" name (kernel.stride operand)
      s!"uint2({whole}, {groupOffset})" trans,
    .line (s!"auto {name}_dst = (threadgroup {kernel.memoryName operand}*)(threadgroup_block + " ++
      s!"{kernel.edgeOffset operand});"),
    .line (s!"events[{event}].async_copy({name}_dst, {kernel.edgeStride operand}, tile_dst, {name}_src, " ++
      s!"{kernel.stride operand}, tile_src, {trans});")]

/-- The staged last columns of one operand as a tile. -/
def edgeTile (kernel : Kernel) (operand : Operand) : List Stmt :=
  let name := operand.name
  let stride := s!"{kernel.edgeStride operand}"
  [.line (s!"auto {name}_block = (threadgroup {kernel.memoryName operand}*)(threadgroup_block + " ++
      s!"{kernel.edgeOffset operand});"),
    kernel.pointer operand s!"{name}_block" s!"{name}_block" stride
      "ushort2(morton_offset.x, morton_offset.y + sidx * 8)" (kernel.transposedName operand)] ++
    kernel.tileLoad operand s!"{name}_block" stride "ushort2(0, 0)"

/-- The last columns of the head dimension. -/
def rowTermEdge (kernel : Kernel) (whole : UInt16) : List Stmt :=
  let block := kernel.descriptor.block
  fenced
    ([.line s!"ushort R_dimension = min(uint({block.parallelization}), uint(R - {groupOffset}));",
      .line s!"ushort2 tile_src({kernel.descriptor.head - whole}, R_dimension);",
      .line "ushort2 tile_dst(8, R_dimension);", .line "simdgroup_event events[2];"] ++
      kernel.edgeCopy 0 .dO whole ++ kernel.edgeCopy 1 .o whole ++
      [.line "simdgroup_event::wait(2, events);"]) [] ++
    kernel.edgeTile .dO ++ kernel.edgeTile .o ++
    [.line ("D_term_accumulate += float2(*dO_tile.thread_elements()) * " ++
      "float2(*O_tile.thread_elements());")]

/-- The row term of a thread's row. -/
def rowTerm (kernel : Kernel) : List Stmt :=
  let head := kernel.descriptor.head
  let whole := head - head % 8
  List.flatten
    [[.comment "D = rowsum(dO * O) * scale", .line "float2 D_term_accumulate = float2(0);"],
      if 0 < whole then [.scope (kernel.rowTermTiles whole)] else [],
      if whole < head then [.scope (kernel.rowTermEdge whole)] else [],
      [.line "float D_term_value = D_term_accumulate[0] + D_term_accumulate[1];",
        .line "D_term_value += simd_shuffle_xor(D_term_value, 1);",
        .line "D_term_value += simd_shuffle_xor(D_term_value, 8);",
        .line s!"D_term = D_term_value * {kernel.backwardScale};", .blank]]

end KernelForge.Attention.Kernel
