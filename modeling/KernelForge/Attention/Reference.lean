import KernelForge.Arithmetic
import KernelForge.Attention.Buffers

/-!
Attention and its derivatives by their definitions: the whole attention matrix is written down, and every
result is a sum over its rows or columns.
-/

namespace KernelForge.Attention.Reference

variable {α : Type} [Exponential α]

/-- A row of the attention matrix, and the natural logarithm of the sum it was divided by. The greatest
    score is taken out of the exponentials. -/
structure SoftmaxRow (α : Type) where
  probabilities : List α
  logSum : α

/-- The softmax of a row of scores. -/
def softmax (scores : List α) : SoftmaxRow α :=
  let greatest := scores.foldl Exponential.greater Exponential.bottom
  let powers := scores.map fun score => Exponential.exp (score - greatest)
  let total := Scalar.sum powers
  ⟨powers.map (· / total), greatest + Exponential.log total⟩

/-- The scaled scores of a query against all keys. -/
def scores (head : Nat) (keys : List (List α)) (query : List α) : List α :=
  keys.map fun key => Scalar.dot query key * Exponential.inverseRoot head

/-- The attention matrix, row by row. -/
def attentionRows (head : Nat) (queries keys : List (List α)) : List (SoftmaxRow α) :=
  queries.map fun query => softmax (scores head keys query)

/-- A row of the output: the values weighted by a row of the attention matrix. -/
def outputRow (head : Nat) (values : List (List α)) (row : SoftmaxRow α) : List α :=
  Scalar.weightedSum head (row.probabilities.zip values)

/-- The output and the logarithms of the row sums to base two. -/
structure Output (α : Type) where
  o : List (List α)
  l : List α

/-- The output of attention. -/
def forward (problem : Problem) (buffers : Buffers α) : Except Failure (Output α) := do
  buffers.check problem [.q, .k, .v]
  let head := problem.extents.head.toNat
  let queries ← buffers.rows problem .q
  let keys ← buffers.rows problem .k
  let values ← buffers.rows problem .v
  let matrix := attentionRows head queries keys
  return ⟨matrix.map (outputRow head values), matrix.map fun row => row.logSum * Exponential.log2e⟩

/-- The derivatives with respect to the inputs, and the inner products of the output rows with their
    derivatives. -/
structure Gradients (α : Type) where
  dQ : List (List α)
  dK : List (List α)
  dV : List (List α)
  d : List α

/-- The columns of a matrix given by rows. -/
def columns {β : Type} (width : Nat) (matrix : List (List β)) : List (List β) :=
  (List.range width).map fun column => matrix.filterMap (·[column]?)

/-- The derivative of a row of scores. -/
def scoreDerivatives (head : Nat) (values : List (List α)) (row : SoftmaxRow α) (outputDerivative : List α)
    (rowTerm : α) : List α :=
  List.zipWith (fun probability value =>
    probability * (Scalar.dot outputDerivative value - rowTerm) * Exponential.inverseRoot head)
    row.probabilities values

/-- The derivatives of attention. -/
def backward (problem : Problem) (buffers : Buffers α) : Except Failure (Gradients α) := do
  buffers.check problem [.q, .k, .v, .dO]
  let head := problem.extents.head.toNat
  let queries ← buffers.rows problem .q
  let keys ← buffers.rows problem .k
  let values ← buffers.rows problem .v
  let outputDerivatives ← buffers.rows problem .dO
  let matrix := attentionRows head queries keys
  let outputs := matrix.map (outputRow head values)
  let rowTerms := List.zipWith Scalar.dot outputDerivatives outputs
  let derivatives := (matrix.zip (outputDerivatives.zip rowTerms)).map fun (row, derivative, rowTerm) =>
    scoreDerivatives head values row derivative rowTerm
  let width := problem.extents.column.toNat
  return {
    dQ := derivatives.map fun row => Scalar.weightedSum head (row.zip keys)
    dK := (columns width derivatives).map fun column => Scalar.weightedSum head (column.zip queries)
    dV := (columns width (matrix.map (·.probabilities))).map fun column =>
      Scalar.weightedSum head (column.zip outputDerivatives)
    d := rowTerms }

end KernelForge.Attention.Reference
