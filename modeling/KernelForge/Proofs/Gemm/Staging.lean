import KernelForge.Proofs.Gemm.Kernel

/-!
Staging blocks in threadgroup memory. A block has its rows and columns as the product sees them; it is stored
with them exchanged where the matrix is, with rows padded to a stride. All its places lie in the memory that
was set aside, and no two of them share a cell, so what was copied to a place is what is read there.
-/

namespace KernelForge.Gemm.Launch

variable {α : Type}

/-- The rows of the block of a matrix. -/
def blockRows (launch : Launch α) : Operand → Nat
  | .a => launch.groupM
  | .b => launch.groupK
  | .c => launch.groupM

/-- The columns of the block of a matrix. -/
def blockColumns (launch : Launch α) : Operand → Nat
  | .a => launch.groupK
  | .b => launch.groupN
  | .c => launch.groupN

theorem rowLength_eq (launch : Launch α) (operand : Operand) :
    (launch.kernel.descriptor.rowLength operand).toNat =
      if launch.kernel.descriptor.transpose.get operand then launch.blockRows operand
      else launch.blockColumns operand := by
  cases operand with
  | a => exact apply_ite UInt16.toNat _ _ _
  | b => exact apply_ite UInt16.toNat _ _ _
  | c => rfl

theorem rowCount_eq (launch : Launch α) (operand : Operand) :
    (launch.kernel.descriptor.rowCount operand).toNat =
      if launch.kernel.descriptor.transpose.get operand then launch.blockColumns operand
      else launch.blockRows operand := by
  cases operand with
  | a => exact apply_ite UInt16.toNat _ _ _
  | b => exact apply_ite UInt16.toNat _ _ _
  | c => rfl

variable {launch : Launch α}

/-- A block whose stored rows fit their stride has room for all its places. -/
theorem staged_lt {operand : Operand} (fits : (launch.kernel.descriptor.rowLength operand).toNat ≤
      (launch.kernel.leading.get operand).toNat) {row column : Nat}
    (inRows : row < launch.blockRows operand) (inColumns : column < launch.blockColumns operand) :
    launch.staged operand row column < launch.stagedSize operand := by
  rw [rowLength_eq] at fits
  simp only [staged, stagedSize, rowCount_eq]
  generalize (launch.kernel.leading.get operand).toNat = stride at fits ⊢
  split at fits <;> rename_i transposed
  · simp only [transposed, if_true]
    rw [Nat.mul_comm stride]
    exact (rectangle_index inColumns (Nat.lt_of_lt_of_le inRows fits)).1
  · simp only [transposed, if_false, Bool.false_eq_true]
    rw [Nat.mul_comm stride]
    exact (rectangle_index inRows (Nat.lt_of_lt_of_le inColumns fits)).1

theorem staged_injective (regular : Regular launch.kernel) {operand : Operand} {row column row' column' : Nat}
    (inRows : row < launch.blockRows operand) (inColumns : column < launch.blockColumns operand)
    (inRows' : row' < launch.blockRows operand) (inColumns' : column' < launch.blockColumns operand)
    (equal : launch.staged operand row column = launch.staged operand row' column') :
    row = row' ∧ column = column' := by
  have fits := regular.rowLength operand
  rw [rowLength_eq] at fits
  simp only [staged] at equal
  generalize (launch.kernel.leading.get operand).toNat = stride at fits equal
  split at fits <;> rename_i transposed
  · simp only [transposed, if_true] at equal
    exact (rowMajor_injective (Nat.lt_of_lt_of_le inRows fits) (Nat.lt_of_lt_of_le inRows' fits) equal).symm
  · simp only [transposed, if_false, Bool.false_eq_true] at equal
    exact rowMajor_injective (Nat.lt_of_lt_of_le inColumns fits) (Nat.lt_of_lt_of_le inColumns' fits) equal

/-- Every place of a block can be read, whatever is there. -/
theorem read_staged {operand : Operand} (fits : (launch.kernel.descriptor.rowLength operand).toNat ≤
      (launch.kernel.leading.get operand).toNat) {block : Array α}
    (size : block.size = launch.stagedSize operand) {row column : Nat}
    (inRows : row < launch.blockRows operand) (inColumns : column < launch.blockColumns operand) :
    ∃ value, block[launch.staged operand row column]? = some value ∧
      readCell block (launch.staged operand row column) = .ok value :=
  readCell_total (size ▸ staged_lt fits inRows inColumns)

/-- A rectangle copied to a block is found there afterwards. -/
theorem copy_staged (regular : Regular launch.kernel) (operand : Operand) {rows columns : Nat}
    (rowsFit : rows ≤ launch.blockRows operand) (columnsFit : columns ≤ launch.blockColumns operand)
    (entry : Nat → Nat → Except Failure α) (content : Nat → Nat → α) {block : Array α}
    (size : block.size = launch.stagedSize operand)
    (each : ∀ row < rows, ∀ column < columns, entry row column = .ok (content row column)) :
    ∃ copied, writeRectangle rows columns (launch.staged operand) entry block = .ok copied ∧
      copied.size = launch.stagedSize operand ∧
      ∀ row < rows, ∀ column < columns,
        copied[launch.staged operand row column]? = some (content row column) := by
  obtain ⟨copied, run, written⟩ := writeRectangle_written
    (fun cell value => ∀ row < rows, ∀ column < columns,
      cell = launch.staged operand row column → value = content row column)
    rows columns (launch.staged operand) entry block
    (by
      intro row inRows column inColumns
      have inBlockRows := Nat.lt_of_lt_of_le inRows rowsFit
      have inBlockColumns := Nat.lt_of_lt_of_le inColumns columnsFit
      refine ⟨size ▸ staged_lt (regular.rowLength operand) inBlockRows inBlockColumns, _,
        each row inRows column inColumns, ?_⟩
      intro row' inRows' column' inColumns' equal
      obtain ⟨rfl, rfl⟩ := staged_injective regular inBlockRows inBlockColumns
        (Nat.lt_of_lt_of_le inRows' rowsFit) (Nat.lt_of_lt_of_le inColumns' columnsFit) equal
      rfl)
  refine ⟨copied, run, written.size.trans size, ?_⟩
  intro row inRows column inColumns
  obtain ⟨value, found, right⟩ := written.written _ ⟨row, inRows, column, inColumns, rfl⟩
  rw [found, right row inRows column inColumns rfl]

end KernelForge.Gemm.Launch
