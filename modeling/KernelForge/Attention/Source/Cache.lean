import KernelForge.Attention.Source.Layout

/-!
The text that moves operands between registers and memory before and after the traversal. Whole parts of the
head dimension may go directly; the last part, and all of them if the kernel prefers it, go through
threadgroup memory.
-/

namespace KernelForge.Attention.Kernel

open Shader (Stmt tileLoop fenced)

/-- The member that moves a tile in one direction. -/
def accessName (kernel : Kernel) (operand : Operand) (store : Bool) : String :=
  if store then kernel.storeName operand else kernel.loadName operand

/-- One part of an operand between registers and device memory. -/
def cacheDirectly (kernel : Kernel) (operand : Operand) (store : Bool) : List Stmt :=
  let name := operand.name
  let stride := kernel.stride operand
  let trans := kernel.transposedName operand
  let access := kernel.accessName operand store
  [.line s!"uint2 {name}_offset(morton_offset.x + d_outer, {threadOffset});",
    kernel.pointer operand s!"auto {name}_src" name stride s!"{name}_offset" trans,
    tileLoop "d" kernel.descriptor.block.head
      [.line s!"{name}_sram[(d_outer + d) / 8].{access}({name}_src, {stride}, ushort2(d, 0), {trans});"]]

/-- The copy of one part of an operand between device and threadgroup memory. -/
def cacheCopy (kernel : Kernel) (operand : Operand) (store : Bool) : List Stmt :=
  let name := operand.name
  let block := kernel.descriptor.block
  let head := kernel.descriptor.head
  let stride := kernel.stride operand
  let blockStride := kernel.blockStride operand
  let trans := kernel.transposedName operand
  let copy :=
    if store then
      s!"event.async_copy({name}_device, {stride}, tile_src, {name}_threadgroup, {blockStride}, tile_src, " ++
        s!"{trans});"
    else
      s!"event.async_copy({name}_threadgroup, {blockStride}, tile_dst, {name}_device, {stride}, tile_src, " ++
        s!"{trans});"
  [.line s!"uint2 {name}_offset(d_outer, {groupOffset});",
    kernel.pointer operand s!"auto {name}_device" name stride s!"{name}_offset" trans,
    .line s!"auto {name}_threadgroup = (threadgroup {kernel.memoryName operand}*)(threadgroup_block);",
    .line s!"ushort D_src_dimension = min(ushort({block.head}), ushort({head} - d_outer));",
    .line s!"ushort D_dst_dimension = min(ushort({block.head}), ushort({kernel.paddedHead} - d_outer));",
    .line (s!"ushort R_dimension = min(uint({block.parallelization}), " ++
      s!"uint({kernel.parallelName} - {groupOffset}));"),
    .line "ushort2 tile_src(D_src_dimension, R_dimension);",
    .line "ushort2 tile_dst(D_dst_dimension, R_dimension);", .blank, .line "simdgroup_event event;",
    .line copy, .line "simdgroup_event::wait(1, &event);"]

/-- One part of an operand through threadgroup memory. Its tiles start at an offset in the registers. -/
def cacheStaged (kernel : Kernel) (operand : Operand) (store : Bool) (offset : String) : List Stmt :=
  let name := operand.name
  let block := kernel.descriptor.block
  let head := kernel.descriptor.head
  let blockStride := kernel.blockStride operand
  let trans := kernel.transposedName operand
  let access := kernel.accessName operand store
  let pointers : List Stmt :=
    [.line s!"ushort2 {name}_block_offset(morton_offset.x, morton_offset.y + sidx * 8);",
      kernel.blockPointer operand,
      kernel.pointer operand s!"{name}_block" s!"{name}_block" s!"{blockStride}" s!"{name}_block_offset"
        trans]
  let move (stop : UInt16) : Stmt :=
    tileLoop "d" stop
      [.line (s!"{name}_sram[({offset} + d) / 8].{access}({name}_block, {blockStride}, ushort2(d, 0), " ++
        s!"{trans});")]
  let moves : List Stmt :=
    if head % block.head = 0 then [move block.head]
    else [.condElse s!"d_outer + {block.head} <= {head}" [move block.head] [move kernel.paddedHeadEdge]]
  if store then
    [.barrier] ++ pointers ++ [.barrier] ++ moves ++
      [.barrier, .cond "sidx == 0" (kernel.cacheCopy operand true)]
  else fenced (kernel.cacheCopy operand false) pointers ++ moves

/-- All of an operand between registers and memory. -/
def cache (kernel : Kernel) (operand : Operand) (store : Bool) : List Stmt :=
  let block := kernel.descriptor.block
  let head := kernel.descriptor.head
  let direct := !kernel.descriptor.asyncCache
  let condition :=
    if direct && head % block.head ≠ 0 then s!"d_outer + {block.head} <= {head}"
    else Shader.boolean direct
  let verb := if store then "Store" else "Load"
  [.comment s!"{verb} the cached {operand.name}.",
    kernel.headBlocks .full head
      [.condElse condition
        [.cond s!"{threadOffset} < {kernel.parallelName}" (kernel.cacheDirectly operand store)]
        (kernel.cacheStaged operand store "d_outer")],
    .blank]

/-- Declares and loads an operand that is kept. -/
def cacheLoad (kernel : Kernel) (operand : Operand) : List Stmt :=
  if kernel.isCached operand then
    kernel.tiles operand (kernel.paddedHead / 8) :: kernel.cache operand false
  else []

/-- Stores an operand that was kept. -/
def cacheStore (kernel : Kernel) (operand : Operand) : List Stmt :=
  if kernel.isCached operand then kernel.cache operand true else []

/-- Declares a result that is kept and starts it at zero. -/
def allocate (kernel : Kernel) (operand : Operand) : List Stmt :=
  if kernel.isCached operand then
    [kernel.tiles operand (kernel.paddedHead / 8),
      tileLoop "d" kernel.paddedHead
        [.line (s!"{operand.name}_sram[d / 8] = " ++
          s!"simdgroup_matrix_storage<{kernel.registerName operand}>(0);")],
      .blank]
  else []

end KernelForge.Attention.Kernel
