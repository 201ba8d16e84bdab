import KernelForge.Attention.Source.Layout

/-!
The text of a product of two operands along the head dimension, which gives a block of the attention matrix.
A step takes one part of the head dimension. The left operand is in registers already or loaded for the step;
the right one is read from device memory inside of the matrix and staged at its edges.
-/

namespace KernelForge.Attention.Kernel

open Shader (Stmt AddressSpace tileLoop fenced)

/-- One step of the product. -/
structure OuterStep where
  left : Operand
  right : Operand
  result : Operand
  /-- Where the step starts in the registers of the left operand. -/
  registerOffset : String
  /-- Whether the step adds to the result, as an expression. -/
  accumulate : String
  /-- Where the left operand is read from when it is not in registers. -/
  leftSpace : AddressSpace := .device
  /-- Where the right operand is read from. -/
  rightSpace : AddressSpace := .device
  /-- Whether the block may lie across an edge. -/
  edge : Bool := false

/-- The left operand of a step into registers. -/
def loadLeft (kernel : Kernel) (operand : Operand) (space : AddressSpace) : List Stmt :=
  let name := operand.name
  let block := kernel.descriptor.block
  let memory := kernel.memoryName operand
  let stride := kernel.stride operand
  let blockStride := kernel.blockStride operand
  let trans := kernel.transposedName operand
  let load := kernel.loadName operand
  kernel.tiles operand (block.head / 8) ::
  match space with
  | .device =>
    [.line s!"uint2 {name}_offset(morton_offset.x + d_outer, {kernel.clampedOffset});",
      kernel.pointer operand s!"auto {name}_src" name stride s!"{name}_offset" trans,
      tileLoop "d" block.head
        [.line s!"{name}_sram[d / 8].{load}({name}_src, {stride}, ushort2(d, 0), {trans});"]]
  | .threadgroup =>
    fenced
      [.line s!"uint2 {name}_offset(d_outer, {groupOffset});",
        kernel.pointer operand "auto src" name stride s!"{name}_offset" trans,
        .line s!"auto dst = (threadgroup {memory}*)(threadgroup_block);",
        .line (s!"ushort D_src_dimension = min(ushort({block.head}), " ++
          s!"ushort({kernel.descriptor.head} - d_outer));"),
        .line s!"ushort D_dst_dimension = max(ushort({kernel.paddedHeadEdge}), D_src_dimension);",
        .line (s!"ushort R_dimension = min(uint({block.parallelization}), " ++
          s!"uint({kernel.parallelName} - {groupOffset}));"),
        .line "ushort2 tile_src(D_src_dimension, R_dimension);",
        .line "ushort2 tile_dst(D_dst_dimension, R_dimension);", .blank, .line "simdgroup_event event;",
        .line s!"event.async_copy(dst, {blockStride}, tile_dst, src, {stride}, tile_src, {trans});",
        .line "simdgroup_event::wait(1, &event);"]
      [.line s!"ushort2 {name}_block_offset(morton_offset.x, morton_offset.y + sidx * 8);",
        kernel.blockPointer operand,
        kernel.pointer operand s!"{name}_block" s!"{name}_block" s!"{blockStride}"
          s!"{name}_block_offset" trans] ++
      [tileLoop "d" block.head
        [.line s!"{name}_sram[d / 8].{load}({name}_block, {blockStride}, ushort2(d, 0), {trans});"]]

/-- The copy of a block of the right operand, filled up with zeros to whole tiles. -/
def rightCopy (kernel : Kernel) (operand : Operand) : List Stmt :=
  let name := operand.name
  let block := kernel.descriptor.block
  let stride := kernel.stride operand
  let trans := kernel.transposedName operand
  [.line s!"uint2 {name}_offset(d_outer, {kernel.traversalIndex});",
    kernel.pointer operand "auto src" name stride s!"{name}_offset" trans,
    .line s!"auto dst = (threadgroup {kernel.memoryName operand}*)(threadgroup_block);",
    .line (s!"ushort D_src_dimension = min(ushort({block.head}), " ++
      s!"ushort({kernel.descriptor.head} - d_outer));"),
    .line s!"ushort D_dst_dimension = max(ushort({kernel.paddedHeadEdge}), D_src_dimension);",
    .line (s!"ushort C_src_dimension = min(uint({block.traversal}), " ++
      s!"uint({kernel.traversalName} - {kernel.traversalIndex}));"),
    .line "ushort C_dst_dimension = max(ushort(padded_traversal_edge), C_src_dimension);",
    .line "ushort2 tile_src(D_src_dimension, C_src_dimension);",
    .line "ushort2 tile_dst(D_dst_dimension, C_dst_dimension);", .blank, .line "simdgroup_event event;",
    .line (s!"event.async_copy(dst, {kernel.blockStride operand}, tile_dst, src, {stride}, tile_src, " ++
      s!"{trans});"),
    .line "simdgroup_event::wait(1, &event);"]

/-- A block of the right operand in threadgroup memory, read with rows and columns exchanged or not. -/
def stageRight (kernel : Kernel) (operand : Operand) (trans : String) : List Stmt :=
  let name := operand.name
  fenced (kernel.rightCopy operand)
    [kernel.blockPointer operand,
      kernel.pointer operand s!"{name}_block" s!"{name}_block" s!"{kernel.blockStride operand}"
        "ushort2(morton_offset.x, morton_offset.y)" trans]

/-- The right operand of a step. -/
def loadRight (kernel : Kernel) (operand : Operand) (space : AddressSpace) : List Stmt :=
  let name := operand.name
  let trans := kernel.untransposedName operand
  match space with
  | .device =>
    [.line (s!"uint2 {name}_offset(morton_offset.x + {kernel.traversalIndex}, " ++
        "morton_offset.y + d_outer);"),
      kernel.pointer operand s!"auto {name}_src" name (kernel.stride operand) s!"{name}_offset" trans]
  | .threadgroup => kernel.stageRight operand trans

/-- The multiplications of a step along the head dimension. -/
def outerHead (kernel : Kernel) (step : OuterStep) (start stop : UInt16) : Stmt :=
  let name := step.right.name
  let (source, stride) :=
    match step.rightSpace with
    | .device => (s!"{name}_src", kernel.stride step.right)
    | .threadgroup => (s!"{name}_block", s!"{kernel.blockStride step.right}")
  tilesFrom "d" s!"{start}" s!"{stop}"
    [.line s!"simdgroup_matrix_storage<{kernel.registerName step.right}> {name}_tile;",
      .line (s!"{name}_tile.{kernel.loadName step.right}({source}, {stride}, ushort2(c, d), " ++
        s!"{kernel.untransposedName step.right});"),
      .line (s!"{step.result.name}_sram[c / 8].multiply({step.left.name}_sram[({step.registerOffset} + d) " ++
        s!"/ 8], {name}_tile, {step.accumulate});")]

/-- The multiplications of a step between two bounds of the traversal. At an edge the head dimension ends
    with its last tile. -/
def outerTraversal (kernel : Kernel) (step : OuterStep) (start stop : String) : Stmt :=
  let block := kernel.descriptor.block
  let edge := kernel.paddedHeadEdge
  tilesFrom "c" start stop
    (if !step.edge || edge = block.head then [kernel.outerHead step 0 block.head]
    else
      [kernel.outerHead step 0 edge,
        .cond s!"d_outer + {block.head} < {kernel.descriptor.head}"
          [kernel.outerHead step edge block.head]])

/-- One step. -/
def outerStep (kernel : Kernel) (step : OuterStep) : List Stmt :=
  let traversal := s!"{kernel.descriptor.block.traversal}"
  (if kernel.isCached step.left then [] else kernel.loadLeft step.left step.leftSpace) ++
    kernel.loadRight step.right step.rightSpace ++
    (if step.edge then
      [kernel.outerTraversal step "0" "padded_traversal_edge",
        .cond s!"{kernel.traversalIndex} + {traversal} < {kernel.traversalName}"
          [kernel.outerTraversal step "padded_traversal_edge" traversal]]
    else [kernel.outerTraversal step "0" traversal])

/-- A step that is staged. -/
def OuterStep.staged (step : OuterStep) : OuterStep :=
  { step with leftSpace := .threadgroup, rightSpace := .threadgroup, edge := true }

/-- A step that reads device memory where the kernel may and the block lies inside of the matrix. -/
def gatedStep (kernel : Kernel) (step : OuterStep) : List Stmt :=
  let descriptor := kernel.descriptor
  let block := descriptor.block
  if descriptor.asyncCache && descriptor.asyncLoad then kernel.outerStep step.staged
  else
    let direct :=
      { step with
        leftSpace := if descriptor.asyncCache then .threadgroup else .device
        rightSpace := if descriptor.asyncLoad then .threadgroup else .device }
    let inside := s!"{kernel.traversalIndex} + {block.traversal} <= {kernel.traversalName}"
    let condition :=
      if descriptor.head % block.head = 0 then inside
      else s!"({inside}) && (d_outer + {block.head} <= {descriptor.head})"
    [.condElse condition (kernel.outerStep direct) (kernel.outerStep step.staged)]

/-- The product of two operands along the head dimension. -/
def outerProduct (kernel : Kernel) (left right result : Operand) : List Stmt :=
  let block := kernel.descriptor.block
  let declared := kernel.tiles result (block.traversal / 8)
  if kernel.isCached left then
    let whole := kernel.paddedHead - kernel.paddedHead % block.head
    let step : OuterStep :=
      { left, right, result, registerOffset := "d_outer", accumulate := "(d_outer > 0) || (d > 0)" }
    [declared, kernel.headBlocks .full whole (kernel.gatedStep step)] ++
      (if whole < kernel.paddedHead then
        [.scope (.line s!"ushort d_outer = {whole};" :: kernel.outerStep step.staged)] else []) ++
      [.blank]
  else
    let step : OuterStep := { left, right, result, registerOffset := "0", accumulate := "true" }
    [declared,
      tileLoop "c" block.traversal
        [.line (s!"{result.name}_sram[c / 8] = " ++
          s!"simdgroup_matrix_storage<{kernel.registerName result}>(0);")],
      kernel.headBlocks .disable kernel.descriptor.head (kernel.gatedStep step), .blank]

end KernelForge.Attention.Kernel
