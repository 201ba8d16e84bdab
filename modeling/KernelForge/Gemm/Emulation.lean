import KernelForge.Arithmetic
import KernelForge.Gemm.Buffers

/-!
What the generated kernel of a matrix product does, threadgroup by threadgroup: the blocks at the edges that
move back into the matrix, the direct and the staged parts of the depth with their padding, and both ways to
store the product. Numbers are rounded wherever the kernel moves them between formats. Threadgroup memory
starts out poisoned, so a schedule that used what it never wrote would show it.
-/

namespace KernelForge.Gemm

/-- A kernel at work on a problem. The buffers are those before the dispatch: blocks that moved back read
    rows that their neighbours write. -/
structure Launch (α : Type) where
  kernel : Kernel
  problem : Problem
  buffers : Buffers α

/-- The tile of one SIMD group: where it lies in its block, and its values row by row. -/
structure Tile (α : Type) where
  row : Nat
  column : Nat
  values : List α

/-- Where a threadgroup works: the place of its block, and the same after it moved back from the edge. -/
structure Place where
  row : Nat
  column : Nat
  shiftedRow : Nat
  shiftedColumn : Nat
  /-- Loads and stores of the product go straight to device memory. -/
  direct : Bool
  deriving DecidableEq, Repr

/-- How far the block at the edge moves back so that its last tile ends with the matrix. A matrix smaller
    than a block moves nothing. -/
def edgeShift (extent group tile : Nat) : Nat :=
  if extent < group then 0
  else tile - (if extent % tile = 0 then tile else extent % tile)

/-- The least number of steps that cover an extent. -/
def stepCount (extent step : Nat) : Nat :=
  (extent + step - 1) / step

namespace Launch

variable {α : Type}

/-- Rows of the product. -/
def m (launch : Launch α) : Nat := launch.problem.extents.m.toNat

/-- Columns of the product. -/
def n (launch : Launch α) : Nat := launch.problem.extents.n.toNat

/-- Terms of each sum. -/
def k (launch : Launch α) : Nat := launch.problem.extents.k.toNat

/-- Rows of a block. -/
def groupM (launch : Launch α) : Nat := launch.kernel.descriptor.block.m.toNat

/-- Columns of a block. -/
def groupN (launch : Launch α) : Nat := launch.kernel.descriptor.block.n.toNat

/-- Depth of a block. -/
def groupK (launch : Launch α) : Nat := launch.kernel.descriptor.block.k.toNat

/-- Rows of a tile. -/
def tileM (launch : Launch α) : Nat := launch.kernel.registerM.toNat

/-- Columns of a tile. -/
def tileN (launch : Launch α) : Nat := launch.kernel.registerN.toNat

/-- The depth of the last block. -/
def lastDepth (launch : Launch α) : Nat :=
  if launch.k % launch.groupK = 0 then launch.groupK else launch.k % launch.groupK

/-- The depth of the last block, filled up to a multiple of eight. -/
def lastPaddedDepth (launch : Launch α) : Nat :=
  (launch.lastDepth + 7) / 8 * 8

/-- The place of an element in a staging block. -/
def staged (launch : Launch α) (operand : Operand) (row column : Nat) : Nat :=
  let stride := (launch.kernel.leading.get operand).toNat
  if launch.kernel.descriptor.transpose.get operand then column * stride + row else row * stride + column

/-- The number of elements of a staging block. -/
def stagedSize (launch : Launch α) (operand : Operand) : Nat :=
  (launch.kernel.leading.get operand).toNat * (launch.kernel.descriptor.rowCount operand).toNat

/-- The staging blocks fit the memory that the kernel reserves. -/
def checkStaging (launch : Launch α) : Except Failure Unit :=
  let bytes (operand : Operand) : Nat := launch.stagedSize operand * (launch.kernel.memory operand).size
  let needed := max (bytes .a + bytes .b) (bytes .c)
  if needed > launch.kernel.threadgroupMemory.toNat then
    .error (.of .outOfBounds
      s!"staging needs {needed} bytes, kernel allocates {launch.kernel.threadgroupMemory.toNat}")
  else .ok ()

/-- The tiles have rows and columns, where the block at an edge has to end with one of them. -/
def checkTiles (launch : Launch α) : Except Failure Unit :=
  if (launch.groupM ≤ launch.m && launch.tileM = 0) || (launch.groupN ≤ launch.n && launch.tileN = 0) then
    .error .divisionByZero
  else .ok ()

/-- Where a threadgroup of the grid works. -/
def place (launch : Launch α) (x y : Nat) : Place :=
  let row := y * launch.groupM
  let column := x * launch.groupN
  let edgeRow := launch.m - launch.m % launch.groupM
  let edgeColumn := launch.n - launch.n % launch.groupN
  let rowShift := if edgeRow ≤ row then edgeShift launch.m launch.groupM launch.tileM else 0
  let columnShift := if edgeColumn ≤ column then edgeShift launch.n launch.groupN launch.tileN else 0
  { row, column
    shiftedRow := row - rowShift
    shiftedColumn := column - columnShift
    direct :=
      !launch.kernel.descriptor.asyncStore && launch.groupM ≤ launch.m && launch.groupN ≤ launch.n &&
        row < edgeRow && column < edgeColumn }

/-- The failure of an access outside a matrix. -/
def outside (launch : Launch α) : Failure :=
  .of .outOfBounds launch.kernel.descriptor.key

variable [Register α]

/-- The SIMD groups of a threadgroup that have a part of the product, in order, with nothing summed yet. -/
def tiles (launch : Launch α) (place : Place) : List (Tile α) :=
  let splits := launch.kernel.descriptor.splits
  (List.range (splits.m.toNat * splits.n.toNat)).filterMap fun index =>
    let row := index / splits.n.toNat * launch.tileM
    let column := index % splits.n.toNat * launch.tileN
    if launch.m ≤ place.row + row || launch.n ≤ place.column + column then none
    else some ⟨row, column, List.replicate (launch.tileM * launch.tileN) Scalar.zero⟩

/-- An element of a matrix in device memory. -/
def load (launch : Launch α) (operand : Operand) (row column : Nat) : Except Failure α := do
  let shape := launch.problem.shape operand
  if row < shape.rows.toNat && column < shape.columns.toNat then
    let value ← readCell (launch.buffers.get operand) (launch.problem.position operand row column)
    return Register.round (launch.kernel.memory operand) value
  else throw launch.outside

/-- The product with one element stored. -/
def store (launch : Launch α) (product : Array α) (row column : Nat) (value : α) :
    Except Failure (Array α) :=
  if row < launch.m && column < launch.n then
    writeCell product (launch.problem.position .c row column)
      (Register.round (launch.kernel.memory .c) value)
  else throw launch.outside

/-- A staging block that nobody wrote to. -/
def poisoned (launch : Launch α) (operand : Operand) : Array α :=
  Array.replicate (launch.stagedSize operand) Register.poison

/-- The values of a tile, each changed by a rule for its place in the block. -/
def updateTile (launch : Launch α) (rule : Nat → Nat → α → Except Failure α) (tile : Tile α) :
    Except Failure (Tile α) := do
  let values ← overRectangle launch.tileN (fun row column value =>
    rule (tile.row + row) (tile.column + column) value) tile.values
  return { tile with values }

/-- The previous product in the tiles, times its factor. -/
def loadProduct (launch : Launch α) (place : Place) (tiles : List (Tile α)) :
    Except Failure (List (Tile α)) := do
  let precision := launch.kernel.register .c
  let factor := Register.round precision launch.buffers.scale
  let scaled (value : α) : α :=
    if Register.isOne launch.buffers.scale then value else Register.round precision (value * factor)
  if place.direct then
    tiles.mapM (launch.updateTile fun row column _ => do
      let value ← launch.load .c (place.shiftedRow + row) (place.shiftedColumn + column)
      return scaled (Register.round precision value))
  else
    let rows := min launch.groupM (launch.m - place.shiftedRow)
    let columns := min launch.groupN (launch.n - place.shiftedColumn)
    let block ← writeRectangle rows columns (launch.staged .c) (fun row column =>
      launch.load .c (place.shiftedRow + row) (place.shiftedColumn + column)) (launch.poisoned .c)
    tiles.mapM (launch.updateTile fun row column _ => do
      let value ← readCell block (launch.staged .c row column)
      return scaled (Register.round precision value))

/-- The bias of a row or column. Beyond the edge the last one stands in. -/
def biasValue (launch : Launch α) (index extent : Nat) : Except Failure α := do
  let value ← readCell launch.buffers.bias (min index (extent - 1))
  return Register.round (launch.kernel.register .c)
    (Register.round launch.kernel.descriptor.bias.precision value)

/-- The bias added to the tiles. -/
def loadBias (launch : Launch α) (place : Place) (tiles : List (Tile α)) :
    Except Failure (List (Tile α)) :=
  let axis := launch.kernel.descriptor.bias.axis
  if axis = .none then .ok tiles
  else
    tiles.mapM (launch.updateTile fun row column value => do
      let bias ←
        if axis = .rows then launch.biasValue (place.shiftedRow + row) launch.m
        else launch.biasValue (place.shiftedColumn + column) launch.n
      return Register.round (launch.kernel.register .c) (value + bias))

/-- Eight terms of the sums of a tile, from factors that `left` and `right` give. -/
def multiplyStep (launch : Launch α) (left right : Nat → Nat → Except Failure α) (depth : Nat) :
    Tile α → Except Failure (Tile α) :=
  launch.updateTile fun row column value => do
    let sum ← (List.range 8).foldlM (fun held step => do
      let first ← left row (depth + step)
      let second ← right (depth + step) column
      return held + Register.round (launch.kernel.register .a) first *
        Register.round (launch.kernel.register .b) second) Scalar.zero
    return Register.round (launch.kernel.register .c) (value + sum)

/-- Where the depth that is loaded directly ends and the staged depth begins. -/
def directDepth (launch : Launch α) : Nat :=
  if launch.kernel.descriptor.asyncLoad || launch.m < launch.groupM || launch.n < launch.groupN then 0
  else launch.k - launch.k % launch.groupK

/-- The part of the sums whose factors are loaded straight from device memory. -/
def multiplyDirect (launch : Launch α) (place : Place) (tiles : List (Tile α)) :
    Except Failure (List (Tile α)) :=
  (List.range (stepCount launch.directDepth 8)).foldlM (fun held step =>
    held.mapM (launch.multiplyStep
      (fun row depth => launch.load .a (place.shiftedRow + row) depth)
      (fun depth column => launch.load .b depth (place.shiftedColumn + column)) (8 * step))) tiles

/-- The staging blocks of both factors. -/
structure Stage (α : Type) where
  a : Array α
  b : Array α

/-- Copies the blocks of both factors at a depth, with zeros behind the end of the depth. -/
def copyFactors (launch : Launch α) (place : Place) (depth : Nat) (stage : Stage α) :
    Except Failure (Stage α) := do
  let rows := min launch.groupM (launch.m - place.shiftedRow)
  let columns := min launch.groupN (launch.n - place.shiftedColumn)
  let present := min launch.groupK (launch.k - depth)
  let padded := min launch.groupK (launch.k + launch.lastPaddedDepth - launch.lastDepth - depth)
  let a ← writeRectangle rows padded (launch.staged .a) (fun row step =>
    if step < present then launch.load .a (place.shiftedRow + row) (depth + step)
    else .ok Scalar.zero) stage.a
  let b ← writeRectangle padded columns (launch.staged .b) (fun step column =>
    if step < present then launch.load .b (depth + step) (place.shiftedColumn + column)
    else .ok Scalar.zero) stage.b
  return ⟨a, b⟩

/-- The part of the sums whose factors are copied to threadgroup memory first, block by block. -/
def multiplyStaged (launch : Launch α) (place : Place) (tiles : List (Tile α)) :
    Except Failure (List (Tile α)) := do
  let start := launch.directDepth
  let (result, _) ← (List.range (stepCount (launch.k - start) launch.groupK)).foldlM (fun held index => do
    let depth := start + index * launch.groupK
    let stage ← launch.copyFactors place depth held.2
    let limit := if depth + launch.groupK < launch.k then launch.groupK else launch.lastPaddedDepth
    let summed ← (List.range (stepCount limit 8)).foldlM (fun tiles step =>
      tiles.mapM (launch.multiplyStep
        (fun row depth => readCell stage.a (launch.staged .a row depth))
        (fun depth column => readCell stage.b (launch.staged .b depth column)) (8 * step))) held.1
    return (summed, stage)) (tiles, (⟨launch.poisoned .a, launch.poisoned .b⟩ : Stage α))
  return result

/-- Writes the tiles to the product. A block that moved back copies only its own part, which lies behind the
    rows and columns it shares with its neighbours. -/
def storeProduct (launch : Launch α) (place : Place) (tiles : List (Tile α)) (product : Array α) :
    Except Failure (Array α) := do
  if place.direct then
    tiles.foldlM (fun held tile =>
      tile.values.zipIdx.foldlM (fun held (value, index) =>
        launch.store held (place.shiftedRow + (tile.row + index / launch.tileN))
          (place.shiftedColumn + (tile.column + index % launch.tileN)) value) held) product
  else
    let block ← tiles.foldlM (fun held tile =>
      tile.values.zipIdx.foldlM (fun held (value, index) =>
        writeCell held
          (launch.staged .c (tile.row + index / launch.tileN) (tile.column + index % launch.tileN))
          (Register.round (launch.kernel.memory .c) value)) held) (launch.poisoned .c)
    let rows := min launch.groupM (launch.m - place.row)
    let columns := min launch.groupN (launch.n - place.column)
    (List.range (rows * columns)).foldlM (fun held index => do
      let row := index / columns
      let column := index % columns
      let value ← readCell block
        (launch.staged .c (place.row - place.shiftedRow + row) (place.column - place.shiftedColumn + column))
      launch.store held (place.row + row) (place.column + column) value) product

/-- One threadgroup: the product after it ran. -/
def runGroup (launch : Launch α) (product : Array α) (x y : Nat) : Except Failure (Array α) := do
  let place := launch.place x y
  let started := launch.tiles place
  let loaded ← if launch.problem.loadPreviousC then launch.loadProduct place started else pure started
  let biased ← launch.loadBias place loaded
  let direct ← launch.multiplyDirect place biased
  let summed ← launch.multiplyStaged place direct
  launch.storeProduct place summed product

/-- The threadgroups of the grid, a row of them after the other. -/
def groups (launch : Launch α) : List (Nat × Nat) :=
  let (columns, rows) := launch.kernel.grid launch.problem.extents
  (List.range rows.toNat).flatMap fun y => (List.range columns.toNat).map fun x => (x, y)

/-- Runs threadgroups one after the other. -/
def runGroups (launch : Launch α) (groups : List (Nat × Nat)) (product : Array α) :
    Except Failure (Array α) :=
  groups.foldlM (fun held group => launch.runGroup held group.1 group.2) product

/-- The kernel was made for problems like this one. -/
def checkMatch (launch : Launch α) : Except Failure Unit :=
  let descriptor := launch.kernel.descriptor
  let problem := launch.problem
  if descriptor.memory ≠ problem.memory || descriptor.transpose ≠ problem.transpose ||
      descriptor.bias.axis ≠ problem.bias.axis then
    .error (.of .invalidDescriptor s!"kernel {descriptor.key} does not match the problem")
  else if problem.extents.m = 0 || problem.extents.n = 0 || problem.extents.k = 0 then
    .error (ProblemDefect.extentsUnset problem.extents).failure
  else .ok ()

/-- Runs a kernel on a problem: the buffer of the product afterwards. -/
def run (launch : Launch α) : Except Failure (Array α) := do
  launch.checkMatch
  launch.problem.checkBuffers launch.buffers true
  launch.checkTiles
  launch.checkStaging
  launch.runGroups launch.groups launch.buffers.c

end Launch

end KernelForge.Gemm
