import KernelForge.Arithmetic
import KernelForge.Attention.Buffers

/-!
What the generated kernels of attention do. A threadgroup owns a block of rows (of columns in the pass for
keys and values) and goes through the other sequence in steps. The forward pass keeps a softmax up to date as
it goes; the backward passes compute the attention matrix again from the stored row terms. Numbers are
rounded to register formats after every eight terms, and a sum that is not kept in registers makes a trip
through memory after every step.
-/

namespace KernelForge.Attention

/-- A kernel at work on a problem. -/
structure Launch where
  kernel : Kernel
  problem : Problem
  deriving Inhabited

namespace Launch

variable {α : Type} [SoftmaxRegister α]

open Register SoftmaxRegister

/-- The head dimension. -/
def head (launch : Launch) : Nat := launch.problem.extents.head.toNat

/-- The output sequence. -/
def rowCount (launch : Launch) : Nat := launch.problem.extents.row.toNat

/-- The input sequence. -/
def columnCount (launch : Launch) : Nat := launch.problem.extents.column.toNat

/-- The length of a step. -/
def step (launch : Launch) : Nat := launch.kernel.descriptor.block.traversal.toNat

/-- Where the steps over a sequence begin. -/
def stepStarts (launch : Launch) (length : Nat) : List Nat :=
  (List.range ((length + launch.step - 1) / launch.step)).map (· * launch.step)

/-- A number of an operand as it comes from memory. -/
def fromMemory (launch : Launch) (operand : Operand) (value : α) : α :=
  round (launch.kernel.register operand) (round (launch.kernel.memory operand) value)

/-- A row of a matrix in registers. Behind the end of the sequence there are zeros. -/
def loadRow (launch : Launch) (buffers : Buffers α) (operand : Operand) (index : Nat) :
    Except Failure (List α) := do
  if (launch.problem.layout operand).length ≤ index then
    return List.replicate launch.head Scalar.zero
  else
    let row ← buffers.row launch.problem operand index
    return row.map (launch.fromMemory operand)

/-- The rows of a step. -/
def loadRows (launch : Launch) (buffers : Buffers α) (operand : Operand) (start : Nat) :
    Except Failure (List (List α)) :=
  (List.range launch.step).mapM fun offset => launch.loadRow buffers operand (start + offset)

/-- A row term in a register. Behind the end of the sequence it is zero. -/
def loadRowTerm (launch : Launch) (buffers : Buffers α) (operand : Operand) (index : Nat) :
    Except Failure α := do
  if launch.rowCount ≤ index then return Scalar.zero
  else return launch.fromMemory operand (← readCell (buffers.get operand) index)

/-- Stores a row of a matrix. -/
def storeRow (launch : Launch) (operand : Operand) (index : Nat) (values : List α) (buffers : Buffers α) :
    Except Failure (Buffers α) :=
  buffers.setRow launch.problem operand index (values.map (round (launch.kernel.memory operand)))

/-- Stores a number. -/
def storeCell (launch : Launch) (operand : Operand) (index : Nat) (value : α) (buffers : Buffers α) :
    Except Failure (Buffers α) :=
  buffers.setCell operand index (round (launch.kernel.memory operand) value)

/-- A sum between two steps: unless it stays in registers it goes to memory and back. -/
def betweenSteps (launch : Launch) (operand : Operand) (values : List α) : List α :=
  if launch.kernel.isCached operand then values else values.map (launch.fromMemory operand)

/-- A softmax that is kept up to date: the greatest exponent so far, the sum of the powers relative to it,
    and the weighted values relative to it. -/
structure Running (α : Type) where
  greatest : α
  total : α
  output : List α

/-- Before the first step. -/
def Running.start (head : Nat) : Running α :=
  ⟨lowest, Scalar.zero, List.replicate head Scalar.zero⟩

/-- The scores of a step; those of columns behind the end are masked. -/
def stepScores (launch : Launch) (query : List α) (keys : List (List α)) (start : Nat) : List α :=
  keys.zipIdx.map fun (key, offset) =>
    if launch.columnCount ≤ start + offset then round (launch.kernel.register .s) mask
    else Register.dot (launch.kernel.register .s) query key

/-- Takes the scores and values of a step into the softmax. -/
def advance (launch : Launch) (running : Running α) (start : Nat) (scores : List α)
    (values : List (List α)) : Running α :=
  let scale : α := forwardScale launch.head
  let precision := launch.kernel.register .o
  let candidate := greater running.greatest (scores.foldl greater lowest * scale)
  let grows := exceeds candidate running.greatest
  let correction := if grows then exp2 (running.greatest - candidate) else one
  let greatest := if grows then candidate else running.greatest
  let weights := scores.map fun score =>
    round (launch.kernel.register .p) (exp2 (score * scale - greatest))
  let total := running.total * correction + Scalar.sum weights
  let corrected := if start = 0 then running.output else scaleRow precision correction running.output
  let summed := accumulateRows precision corrected (weights.zip values)
  let output :=
    if launch.columnCount ≤ start + launch.step then scaleRow precision (one / total) summed else summed
  ⟨greatest, total, launch.betweenSteps .o output⟩

/-- The softmax of a row after all steps. -/
def forwardRow (launch : Launch) (buffers : Buffers α) (index : Nat) : Except Failure (Running α) := do
  let query ← launch.loadRow buffers .q index
  (launch.stepStarts launch.columnCount).foldlM (fun running start => do
    let keys ← launch.loadRows buffers .k start
    let values ← launch.loadRows buffers .v start
    return launch.advance running start (launch.stepScores query keys start) values)
    (Running.start launch.head)

/-- One row of the forward pass. -/
def runForward (launch : Launch) (index : Nat) (buffers : Buffers α) : Except Failure (Buffers α) := do
  let running ← launch.forwardRow buffers index
  let stored ← launch.storeRow .o index running.output buffers
  if launch.kernel.descriptor.type.secondary then
    launch.storeCell .l index (running.greatest + log2 running.total) stored
  else return stored

/-- The inner product of a row of the output with its derivative, scaled. Both are taken as they are in
    memory. -/
def rowTerm (launch : Launch) (buffers : Buffers α) (index : Nat) : Except Failure α := do
  let derivative ← buffers.row launch.problem .dO index
  let output ← buffers.row launch.problem .o index
  let sum := Scalar.dot (derivative.map (round (launch.kernel.memory .dO)))
    (output.map (round (launch.kernel.memory .o)))
  return sum * backwardScale launch.head

/-- A probability of the attention matrix and the derivative of its score. -/
structure ScorePair (α : Type) where
  probability : α
  derivative : α

/-- Computes a place of the attention matrix again. The first two rows belong to the block that is kept, the
    next two to the step. -/
def recompute (launch : Launch) (kept keptDerivative stepped steppedDerivative : List α)
    (logSum rowTerm : α) : ScorePair α :=
  let score := Register.dot (launch.kernel.register .s) kept stepped
  let probability := round (launch.kernel.register .p) (exp2 (score * forwardScale launch.head - logSum))
  let product := Register.dot (launch.kernel.register .dP) keptDerivative steppedDerivative
  ⟨probability,
    round (launch.kernel.register .dS) (probability * (product * backwardScale launch.head - rowTerm))⟩

/-- The attention matrix of a step of the pass for queries, along the input sequence. -/
def queryStep (launch : Launch) (query outputDerivative : List α) (logSum rowTerm : α)
    (keys values : List (List α)) : List (ScorePair α) :=
  List.zipWith (fun key value => launch.recompute query outputDerivative key value logSum rowTerm) keys values

/-- The derivative of a query. -/
def queryDerivative (launch : Launch) (buffers : Buffers α) (index : Nat) (rowTerm : α) :
    Except Failure (List α) := do
  let logSum := round (launch.kernel.memory .l) (← readCell (buffers.get .l) index)
  let query ← launch.loadRow buffers .q index
  let outputDerivative ← launch.loadRow buffers .dO index
  (launch.stepStarts launch.columnCount).foldlM (fun held start => do
    let keys ← launch.loadRows buffers .k start
    let values ← launch.loadRows buffers .v start
    let pairs := launch.queryStep query outputDerivative logSum rowTerm keys values
    return launch.betweenSteps .dQ
      (accumulateRows (launch.kernel.register .dQ) held ((pairs.map (·.derivative)).zip keys)))
    (List.replicate launch.head Scalar.zero)

/-- One row of the pass for queries. -/
def runBackwardQuery (launch : Launch) (index : Nat) (buffers : Buffers α) :
    Except Failure (Buffers α) := do
  let term ← launch.rowTerm buffers index
  let stored ← launch.storeCell .d index term buffers
  if launch.kernel.descriptor.type.secondary then
    let derivative ← launch.queryDerivative stored index term
    launch.storeRow .dQ index derivative stored
  else return stored

/-- The attention matrix of a step of the pass for keys and values, along the output sequence. -/
def keyStep (launch : Launch) (buffers : Buffers α) (key value : List α) (start : Nat)
    (queries derivatives : List (List α)) : Except Failure (List (ScorePair α)) :=
  (queries.zip derivatives).zipIdx.mapM fun ((query, derivative), offset) => do
    let logSum ← launch.loadRowTerm buffers .l (start + offset)
    let rowTerm ← launch.loadRowTerm buffers .d (start + offset)
    return launch.recompute key value query derivative logSum rowTerm

/-- The two sums of the pass for keys and values. -/
structure KeySums (α : Type) where
  value : List α
  key : List α

/-- One step of the pass for keys and values. Without its second result the derivatives of the scores are
    stored instead of summed. -/
def advanceKey (launch : Launch) (index : Nat) (key value : List α) (start : Nat)
    (state : KeySums α × Buffers α) : Except Failure (KeySums α × Buffers α) := do
  let (sums, buffers) := state
  let queries ← launch.loadRows buffers .q start
  let derivatives ← launch.loadRows buffers .dO start
  let pairs ← launch.keyStep buffers key value start queries derivatives
  let valueSum := launch.betweenSteps .dV
    (accumulateRows (launch.kernel.register .dV) sums.value ((pairs.map (·.probability)).zip derivatives))
  if launch.kernel.descriptor.type.secondary then
    let keySum := launch.betweenSteps .dK
      (accumulateRows (launch.kernel.register .dK) sums.key ((pairs.map (·.derivative)).zip queries))
    return (⟨valueSum, keySum⟩, buffers)
  else
    let stride := launch.problem.scoreStride.toNat
    let stored ← pairs.zipIdx.foldlM (fun held (pair, offset) =>
      if start + offset < launch.rowCount then
        launch.storeCell .dST ((start + offset) * stride + index) pair.derivative held
      else return held) buffers
    return (⟨valueSum, sums.key⟩, stored)

/-- One column of the pass for keys and values. -/
def runBackwardKeyValue (launch : Launch) (index : Nat) (buffers : Buffers α) :
    Except Failure (Buffers α) := do
  let key ← launch.loadRow buffers .k index
  let value ← launch.loadRow buffers .v index
  let zeros : List α := List.replicate launch.head Scalar.zero
  let (sums, stored) ← (launch.stepStarts launch.rowCount).foldlM
    (fun state start => launch.advanceKey index key value start state) ((⟨zeros, zeros⟩ : KeySums α), buffers)
  let withValue ← launch.storeRow .dV index sums.value stored
  if launch.kernel.descriptor.type.secondary then launch.storeRow .dK index sums.key withValue
  else return withValue

/-- One row, or column, of the pass of the kernel. -/
def runRow (launch : Launch) (index : Nat) (buffers : Buffers α) : Except Failure (Buffers α) :=
  let pass := launch.kernel.descriptor.type.pass
  if pass = .forward then launch.runForward index buffers
  else if pass = .backwardQuery then launch.runBackwardQuery index buffers
  else launch.runBackwardKeyValue index buffers

/-- The sequence that threadgroups divide among them. -/
def parallelCount (launch : Launch) : Nat :=
  if launch.kernel.descriptor.type.pass = .backwardKeyValue then launch.columnCount else launch.rowCount

/-- One threadgroup: its rows one after the other. -/
def runGroup (launch : Launch) (buffers : Buffers α) (group : Nat) : Except Failure (Buffers α) :=
  let size := launch.kernel.descriptor.block.parallelization.toNat
  let first := group * size
  let count := min (first + size) launch.parallelCount - first
  (List.range' first count).foldlM (fun held index => launch.runRow index held) buffers

/-- Runs threadgroups one after the other. -/
def runGroups (launch : Launch) (groups : List Nat) (buffers : Buffers α) : Except Failure (Buffers α) :=
  groups.foldlM launch.runGroup buffers

/-- The kernel was made for problems like this one, and all buffers are there. -/
def check (launch : Launch) (buffers : Buffers α) : Except Failure Unit :=
  let descriptor := launch.kernel.descriptor
  let extents := launch.problem.extents
  if descriptor.head ≠ extents.head then
    .error (.of .invalidDescriptor s!"kernel head dimension {descriptor.head}, problem {extents.head}")
  else if extents.row = 0 || extents.column = 0 then
    .error (.of .descriptorIncomplete s!"matrix {extents.display}")
  else do
    buffers.check launch.problem descriptor.type.operands.toList
    if descriptor.type.pass.isValid then return ()
    else throw (.of .invalidDescriptor s!"pass {descriptor.type.pass.name}")

/-- Runs a kernel on a problem: the buffers afterwards. -/
def run (launch : Launch) (buffers : Buffers α) : Except Failure (Buffers α) := do
  launch.check buffers
  launch.runGroups (List.range (launch.kernel.grid launch.problem.extents).toNat) buffers

end Launch

end KernelForge.Attention
