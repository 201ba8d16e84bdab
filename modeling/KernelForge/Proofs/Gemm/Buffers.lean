import KernelForge.Gemm.Buffers
import Mathlib.Algebra.Ring.Nat

/-!
The extents of matrices in their buffers, over the natural numbers. The check of the buffers computes them in
64 bits, where they can wrap; a wrapped extent is never above the true one, so buffers that are long enough
always pass, and every element of a matrix lies inside its true extent.
-/

namespace KernelForge.Gemm

/-- The number of elements from the first to the last of a matrix with a stride. -/
def exactSpan (rows columns stride : Nat) : Nat :=
  if rows = 0 ∨ columns = 0 then 0 else (rows - 1) * stride + columns

/-- The extent in 64 bit arithmetic is the true one, wrapped. -/
theorem span_eq_ofInt (rows columns stride : UInt32) :
    span rows columns stride = Int64.ofInt (exactSpan rows.toNat columns.toNat stride.toNat : Nat) := by
  unfold span exactSpan
  simp only [Bool.or_eq_true, decide_eq_true_eq, ← UInt32.toNat_inj, UInt32.toNat_zero]
  split
  · rfl
  · rename_i some
    have pred : ((rows.toNat - 1 : Nat) : Int) = rows.toNat - 1 := by omega
    push_cast [pred]
    simp [Int64.ofInt_add, Int64.ofInt_mul, Int64.ofInt_sub, Int64.ofInt_eq_ofNat]

/-- The wrapped extent of a matrix is at most the true one. -/
theorem span_le (rows columns stride : UInt32) :
    (span rows columns stride).toInt ≤ exactSpan rows.toNat columns.toNat stride.toNat := by
  rw [span_eq_ofInt, Int64.toInt_ofInt]
  generalize exactSpan rows.toNat columns.toNat stride.toNat = exact
  have positive : (0 : Int) ≤ exact := Int.natCast_nonneg exact
  simp only [Int.bmod, Int64.size]
  split <;> omega

/-- An element of a row-major rectangle lies inside its extent. -/
theorem lt_exactSpan {rows columns stride row column : Nat} (inRows : row < rows) (inColumns : column < columns) :
    row * stride + column < exactSpan rows columns stride := by
  have reach : row * stride ≤ (rows - 1) * stride := Nat.mul_le_mul_right stride (by omega)
  rw [exactSpan, if_neg (by omega)]
  omega

namespace Problem

/-- The number of elements that the buffer of a matrix needs. -/
def exactSize (problem : Problem) (operand : Operand) : Nat :=
  let stored := problem.storedShape operand
  exactSpan stored.rows.toNat stored.columns.toNat (problem.strides.get operand).toNat

theorem bufferSize_le (problem : Problem) (operand : Operand) :
    (problem.bufferSize operand).toInt ≤ problem.exactSize operand :=
  span_le _ _ _

/-- Every element of a matrix lies inside its extent. -/
theorem position_lt (problem : Problem) (operand : Operand) {row column : Nat}
    (inRows : row < (problem.shape operand).rows.toNat)
    (inColumns : column < (problem.shape operand).columns.toNat) :
    problem.position operand row column < problem.exactSize operand := by
  simp only [position, exactSize, storedShape]
  split
  · exact lt_exactSpan inColumns inRows
  · exact lt_exactSpan inRows inColumns

/-- Buffers that hold their matrices pass the check, whether or not the product is looked at. -/
theorem checkBuffers_ok {α : Type} (problem : Problem) (buffers : Buffers α) (needsProduct : Bool)
    (matrices : ∀ operand, needsProduct = true ∨ operand ≠ .c →
      problem.exactSize operand ≤ (buffers.get operand).size)
    (bias : problem.biasSize.toNat ≤ buffers.bias.size) :
    problem.checkBuffers buffers needsProduct = .ok () := by
  have passes : ∀ operand, needsProduct = true ∨ operand ≠ .c →
      BufferDefect.check operand.name (buffers.get operand) (problem.bufferSize operand) = [] := by
    intro operand looked
    have long := matrices operand looked
    have wrapped := problem.bufferSize_le operand
    unfold BufferDefect.check
    rw [if_neg (by omega)]
  have biasPasses : BufferDefect.check "bias" buffers.bias (Int64.ofNat problem.biasSize.toNat) = [] := by
    have small := problem.biasSize.toNat_lt
    have exact : (Int64.ofNat problem.biasSize.toNat).toInt = problem.biasSize.toNat :=
      Int64.toInt_ofNat_of_lt (by omega)
    unfold BufferDefect.check
    rw [exact, if_neg (by omega)]
  unfold checkBuffers
  cases needsProduct with
  | true => simp [passes, biasPasses]
  | false => simp [passes, biasPasses]

end Problem

end KernelForge.Gemm
