import KernelForge.Attention.Source.Cache
import KernelForge.Attention.Source.OuterProduct

/-!
The text that adds the product of a block of the attention matrix with an operand to a result. A result that
is kept stays in registers; any other is loaded, scaled, added to and stored again in every step of the
traversal.
-/

namespace KernelForge.Attention.Kernel

open Shader (Stmt tileLoop)

/-- A sum over the traversal: `result += weights · right`. -/
structure Accumulation where
  weights : Operand
  right : Operand
  result : Operand
  /-- What the result is multiplied with before every block but the first. -/
  everyScale : Option String := none
  /-- What the result is multiplied with after the last block. -/
  lastScale : Option String := none

/-- The multiplications between two bounds of the head dimension. -/
def accumulateHead (kernel : Kernel) (sum : Accumulation) (offset : String) (start stop : UInt16) : Stmt :=
  let name := sum.right.name
  tilesFrom "d" s!"{start}" s!"{stop}"
    [.line s!"simdgroup_matrix_storage<{kernel.registerName sum.right}> {name}_tile;",
      .line (s!"{name}_tile.{kernel.loadName sum.right}({name}_block, {kernel.blockStride sum.right}, " ++
        s!"ushort2(d, c), {kernel.transposedName sum.right});"),
      .line (s!"{sum.result.name}_sram[({offset} + d) / 8].multiply({sum.weights.name}_sram[c / 8], " ++
        s!"{name}_tile);")]

/-- The multiplications between two bounds of the traversal. Without an extent the last part of the head
    dimension is found out when the kernel runs. -/
def accumulateTraversal (kernel : Kernel) (sum : Accumulation) (offset : String) (extent : Option UInt16)
    (start stop : String) : Stmt :=
  let block := kernel.descriptor.block
  let edge := kernel.paddedHeadEdge
  tilesFrom "c" start stop
    (match extent with
    | some extent => [kernel.accumulateHead sum offset 0 extent]
    | none =>
      if edge = block.head then [kernel.accumulateHead sum offset 0 block.head]
      else
        [kernel.accumulateHead sum offset 0 edge,
          .cond s!"d_outer + {block.head} < {kernel.descriptor.head}"
            [kernel.accumulateHead sum offset edge block.head]])

/-- One part of the head dimension. -/
def accumulateStep (kernel : Kernel) (sum : Accumulation) (offset : String) (extent : Option UInt16) :
    List Stmt :=
  let block := kernel.descriptor.block
  let name := sum.result.name
  let index := kernel.traversalIndex
  let scaled (factor : String) : List Stmt :=
    [tileLoop "d" (extent.getD block.head)
      [.line s!"*({name}_sram[({offset} + d) / 8].thread_elements()) *= {factor};"]]
  let every := (sum.everyScale.map scaled).getD []
  let before : List Stmt :=
    if kernel.isCached sum.result then if sum.everyScale.isSome then [.cond s!"{index} > 0" every] else []
    else
      [.condElse s!"{index} == 0"
        [tileLoop "d" block.head
          [.line (s!"{name}_sram[d / 8] = " ++
            s!"simdgroup_matrix_storage<{kernel.registerName sum.result}>(0);")]]
        (kernel.cacheStaged sum.result false offset ++ every)]
  let last : List Stmt :=
    match sum.lastScale with
    | some factor => [.cond s!"{index} + {block.traversal} >= {kernel.traversalName}" (scaled factor)]
    | none => []
  before ++ kernel.stageRight sum.right (kernel.transposedName sum.right) ++
    [kernel.accumulateTraversal sum offset extent "0" "padded_traversal_edge",
      .cond s!"{index} + {block.traversal} < {kernel.traversalName}"
        [kernel.accumulateTraversal sum offset extent "padded_traversal_edge" s!"{block.traversal}"]] ++
    last ++
    (if kernel.isCached sum.result then [] else kernel.cacheStaged sum.result true offset)

/-- A sum over the traversal, a part of the head dimension after the other. -/
def accumulate (kernel : Kernel) (sum : Accumulation) : List Stmt :=
  let block := kernel.descriptor.block
  if kernel.isCached sum.result then
    let whole := kernel.paddedHead - kernel.paddedHead % block.head
    [kernel.headBlocks .full whole (kernel.accumulateStep sum "d_outer" (some block.head))] ++
      (if whole < kernel.paddedHead then
        [.scope (.line s!"ushort d_outer = {whole};" ::
          kernel.accumulateStep sum "d_outer" (some kernel.paddedHeadEdge))] else []) ++
      [.blank]
  else
    [kernel.headBlocks .disable kernel.descriptor.head
        (kernel.tiles sum.result (block.head / 8) :: kernel.accumulateStep sum "0" none),
      .blank]

end KernelForge.Attention.Kernel
