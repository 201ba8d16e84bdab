import KernelForge.Proofs.SignedZero
import KernelForge.Proofs.Attention.Report

/-!
The two backward passes see the same attention matrix, in single precision and bit by bit. They take the inner products
with their arguments exchanged, the pass for queries rounds the logarithm of a row sum once where the other rounds it
twice, and it uses the row term before it is stored where the other loads it again. None of this shows: products
commute, a format of registers is the format of memory or wide enough for it, and the row term is stored in 32 bits.
-/

namespace KernelForge

open Float.Model (UnpackedFloat)

theorem Single.mul_comm (first second : Float32) : first * second = second * first := by
  have signs : ∀ one other : UnpackedFloat.Sign, one * other = other * one := by
    intro one other
    cases one <;> cases other <;> rfl
  rw [Single.mul_eq, Single.mul_eq]
  congr 2
  cases first.toModel.unpack <;> cases second.toModel.unpack <;>
    simp [UnpackedFloat.mul, signs, Nat.mul_comm, Int.add_comm]

/-- What fits a format of memory fits the registers that hold it. -/
theorem Precision.round_of_checkPair {memory register : Precision} (paired : checkPair memory register = .ok ())
    (value : Float32) : register.round (memory.round value) = memory.round value := by
  unfold checkPair at paired
  split at paired
  · cases paired
  · split at paired
    · cases paired
    · rename_i holdable
      by_cases same : register = memory
      · rw [same, round_round]
      · have wide : register = .fp32 := by simpa [same] using holdable
        rw [wide]
        rfl

theorem Register.dot_comm (precision : Precision) (first second : List Float32) :
    Register.dot precision first second = Register.dot precision second first := by
  unfold Register.dot
  rw [List.zipWith_comm_of_comm Single.mul_comm]

end KernelForge

namespace KernelForge.Attention

open Buffers Register SoftmaxRegister

theorem checkPair_of_ofDescriptor {descriptor : Descriptor} {kernel : Kernel}
    (made : Kernel.ofDescriptor descriptor = .ok kernel) {operand : Operand}
    (bound : operand ∈ descriptor.type.operands.toList) :
    Precision.checkPair (descriptor.memory.get operand) (descriptor.register.get operand) = .ok () := by
  unfold Kernel.ofDescriptor at made
  simp only [refuse_ok_iff, bind_ok_iff] at made
  obtain ⟨_, _, _, _, _, _, _, _, _, _, pairs, _⟩ := made
  exact mapError_ok.mp (Descriptor.check_of_checkEach pairs bound)

/-- The two kernels of a backward pass: both round the operands of the attention matrix alike and keep the row term in
    32 bits. Their blocks have nothing to do with each other. -/
structure BackwardPair (query key : Kernel) : Prop where
  acceptedQuery : Kernel.ofDescriptor query.descriptor = .ok query
  acceptedKey : Kernel.ofDescriptor key.descriptor = .ok key
  isQuery : query.descriptor.type = ⟨.backwardQuery, true⟩
  isKey : key.descriptor.type.pass = .backwardKeyValue
  memory : ∀ operand ∈ [Operand.q, .k, .v, .dO, .l], query.memory operand = key.memory operand
  register : ∀ operand ∈ [Operand.q, .k, .v, .dO, .l, .s, .p, .dP, .dS], query.register operand = key.register operand
  termQuery : query.memory .d = .fp32
  termKey : key.memory .d = .fp32

namespace BackwardPair

open Launch

variable {query key : Kernel} (pair : BackwardPair query key) (problem : Problem)
include pair

/-- The same place, with the sides exchanged. -/
theorem recompute_comm (queryRow derivativeRow keyRow valueRow : List Float32) (logSum rowTerm : Float32) :
    recompute ⟨key, problem⟩ keyRow valueRow queryRow derivativeRow logSum rowTerm =
      recompute ⟨query, problem⟩ queryRow derivativeRow keyRow valueRow logSum rowTerm := by
  unfold recompute
  rw [← pair.register .s (by simp), ← pair.register .p (by simp), ← pair.register .dP (by simp),
    ← pair.register .dS (by simp), Register.dot_comm _ keyRow, Register.dot_comm _ valueRow]
  rfl

/-- The pass for keys and values may round a row term again. -/
theorem loadedTerm_eq {operand : Operand} (bound : operand ∈ key.descriptor.type.operands.toList)
    (buffers : Buffers Float32) {row : Nat} (inside : row < problem.extents.row.toNat) :
    loadedTerm ⟨key, problem⟩ buffers operand row = storedTerm ⟨key, problem⟩ buffers operand row := by
  refine (if_neg (Nat.not_le.mpr inside)).trans ?_
  exact Precision.round_of_checkPair (checkPair_of_ofDescriptor pair.acceptedKey bound) _

theorem keyPair_eq {buffers middle : Buffers Float32}
    (same : ∀ operand ∈ [Operand.q, .k, .v, .dO, .l], middle.get operand = buffers.get operand) {row : Nat}
    (inside : row < problem.extents.row.toNat)
    (term : (middle.get .d)[row]? = some (rowProduct ⟨query, problem⟩ buffers row)) (column : Nat) :
    keyPair ⟨key, problem⟩ middle column row = queryPair ⟨query, problem⟩ buffers row column := by
  have rows : ∀ operand ∈ [Operand.q, .k, .v, .dO],
      loadedRow ⟨key, problem⟩ middle operand = loadedRow ⟨query, problem⟩ buffers operand := by
    intro operand member
    have inMemory : operand ∈ [Operand.q, .k, .v, .dO, .l] := by revert operand; decide
    have inRegister : operand ∈ [Operand.q, .k, .v, .dO, .l, .s, .p, .dP, .dS] := by revert operand; decide
    exact loadedRow_congr rfl (pair.memory operand inMemory).symm (pair.register operand inRegister).symm
      (same operand inMemory)
  have bound : ∀ operand ∈ [Operand.l, .d], operand ∈ key.descriptor.type.operands.toList := by
    have inputs := KernelType.inputs_keyValue pair.isKey
    intro operand member
    refine (KernelType.of_mem_inputs (KernelType.mem_all (made_of_ofDescriptor pair.acceptedKey).valid) ?_).1
    rw [inputs]
    revert operand
    decide
  have logSum : loadedTerm ⟨key, problem⟩ middle .l row = storedTerm ⟨query, problem⟩ buffers .l row := by
    rw [pair.loadedTerm_eq problem (bound .l (by simp)) middle inside]
    exact congrFun (storedTerm_congr (pair.memory .l (by simp)).symm (same .l (by simp))) row
  have rowTerm : loadedTerm ⟨key, problem⟩ middle .d row = rowProduct ⟨query, problem⟩ buffers row := by
    rw [pair.loadedTerm_eq problem (bound .d (by simp)) middle inside, storedTerm, pair.termKey, term]
    rfl
  unfold keyPair queryPair
  rw [pair.recompute_comm, rows .q (by simp), rows .k (by simp), rows .v (by simp), rows .dO (by simp), logSum, rowTerm]

/-- The pass for queries leaves its row terms as they are. -/
theorem get_rowTerm {buffers middle : Buffers Float32} (fits : Fits ⟨query, problem⟩ buffers)
    (stored : Stored (Expected ⟨query, problem⟩ buffers) (problem.IsResult query.descriptor.type) buffers middle)
    {row : Nat} (inside : row < problem.extents.row.toNat) :
    (middle.get .d)[row]? = some (rowProduct ⟨query, problem⟩ buffers row) := by
  have member : .d ∈ query.descriptor.type.results := by rw [pair.isQuery]; decide
  have parallel : (Launch.mk query problem).parallelCount = problem.extents.row.toNat := by
    rw [parallelCount, pair.isQuery]
    rfl
  have found : (middle.get .d)[place ⟨query, problem⟩ .d row 0]? = some (entry ⟨query, problem⟩ buffers .d row 0) :=
    fits.get_entry stored member (parallel.symm ▸ inside) Nat.one_pos
  have isPlace : place ⟨query, problem⟩ .d row 0 = row := Nat.mul_one row
  have isEntry : entry ⟨query, problem⟩ buffers .d row 0 = rowProduct ⟨query, problem⟩ buffers row := by
    unfold entry
    rw [pair.termQuery]
    rfl
  rw [← isEntry, ← found, isPlace]

end BackwardPair

open Launch

/-- Run one after the other, the two passes form the same attention matrix: the rows that the pass for queries reports
    and the columns that the pass for keys and values reports are the same in every place. Where the derivative of the
    scores is stored it is the one that both form, and the stride behind it is left alone. -/
theorem matrix_eq_of_backwardPair {query key : Kernel} {problem : Problem} {buffers : Buffers Float32}
    (pair : BackwardPair query key) (short : problem.Short) (checkedQuery : check ⟨query, problem⟩ buffers = .ok ())
    (checkedKey : check ⟨key, problem⟩ buffers = .ok ()) :
    ∃ middle after rows columns, ∃ matrix : Nat → Nat → ScorePair Float32,
      run ⟨query, problem⟩ buffers = .ok middle ∧ reportRun ⟨query, problem⟩ buffers = .ok (middle, rows) ∧
      run ⟨key, problem⟩ middle = .ok after ∧ reportRun ⟨key, problem⟩ middle = .ok (after, columns) ∧
      Reports rows problem.extents.row.toNat problem.extents.column.toNat matrix ∧
      Reports columns problem.extents.column.toNat problem.extents.row.toNat (fun column row => matrix row column) ∧
      (key.descriptor.type.secondary = false → ∀ row < problem.extents.row.toNat,
        (∀ column < problem.extents.column.toNat,
          (after.get .dST)[row * problem.scoreStride.toNat + column]? =
            some (Precision.round (key.memory .dST) (matrix row column).derivative)) ∧
        ∀ column, problem.extents.column.toNat ≤ column → column < problem.scoreStride.toNat →
          (after.get .dST)[row * problem.scoreStride.toNat + column]? =
            (buffers.get .dST)[row * problem.scoreStride.toNat + column]?) := by
  have fitsQuery : Fits ⟨query, problem⟩ buffers :=
    fits_of_check pair.acceptedQuery short checkedQuery
  obtain ⟨middle, ranQuery, storedQuery⟩ := fitsQuery.run_stored short checkedQuery
  have unchanged : Agrees query.descriptor.type.results buffers middle := storedQuery.agrees fun _ _ here => here.1
  have checkedMiddle := check_agrees unchanged checkedKey
  have fitsKey : Fits ⟨key, problem⟩ middle :=
    fits_of_check pair.acceptedKey short checkedMiddle
  obtain ⟨after, ranKey, storedKey⟩ := fitsKey.run_stored short checkedMiddle
  -- Of what the second pass reads, the first has written the row terms only.
  have kept : ∀ operand ∈ [Operand.q, .k, .v, .dO, .l, .dST], middle.get operand = buffers.get operand := by
    intro operand member
    refine unchanged.kept operand ?_
    rw [pair.isQuery]
    revert operand
    decide
  have places : ∀ row < problem.extents.row.toNat, ∀ column,
      keyPair ⟨key, problem⟩ middle column row = queryPair ⟨query, problem⟩ buffers row column := fun row inside =>
    pair.keyPair_eq problem (fun operand member => kept operand (by revert operand; decide)) inside
      (pair.get_rowTerm problem fitsQuery storedQuery inside)
  obtain ⟨rows, reportedRows, isRows⟩ := fitsQuery.reportRun_query pair.isQuery ranQuery short checkedQuery
  obtain ⟨columns, reportedColumns, isColumns⟩ := fitsKey.reportRun_key pair.isKey ranKey short checkedMiddle
  refine ⟨middle, after, rows, columns, queryPair ⟨query, problem⟩ buffers, ranQuery, reportedRows, ranKey,
    reportedColumns, isRows, ⟨isColumns.once, ?_⟩, ?_⟩
  · intro column member row below
    rw [← places row below]
    exact isColumns.found column member row below
  · intro single row inRows
    have member : .dST ∈ key.descriptor.type.results := by
      simp [KernelType.results, pair.isKey, single]
    refine ⟨fun column inColumns => ?_, fun column beyond inStride => ?_⟩
    · rw [← places row inRows]
      have inside : column < (Launch.mk key problem).parallelCount := by
        rw [parallelCount_dST fitsKey.known member]
        exact inColumns
      exact fitsKey.get_entry storedKey member inside inRows
    · -- Behind the last column stands no result, so neither pass has been there.
      rw [← kept .dST (by simp)]
      refine (storedKey .dST).kept _ ?_
      rintro ⟨-, row', -, column', inColumns, equal⟩
      obtain ⟨-, rfl⟩ := rowMajor_injective inStride (Nat.lt_of_lt_of_le inColumns fitsKey.stride) equal
      exact Nat.not_lt.mpr beyond inColumns

/-- Inputs and the logarithms of row sums in 16 bits of memory. -/
def mixedMemory : Precisions :=
  (Precisions.unset.setAll Operand.all .fp32).setAll [.q, .k, .v, .dO, .l, .dST] .bf16

/-- Some of them in wider registers, and probabilities in narrower ones. -/
def mixedRegister : Precisions :=
  (Precisions.unset.setAll Operand.all .fp32).setAll [.q, .k, .v, .p] .bf16

/-- A pass for queries in these formats. -/
def mixedQuery : Kernel where
  descriptor := {
    block := ⟨16, 24, 8⟩
    memory := mixedMemory
    register := mixedRegister
    head := 9
    type := ⟨.backwardQuery, true⟩ }
  operands := KernelType.operands ⟨.backwardQuery, true⟩
  cached := .empty
  paddedHead := 16
  threadgroupMemory := 768
  threadgroupSize := 64

/-- A pass for keys and values in these formats, with other blocks. -/
def mixedScores : Kernel where
  descriptor := {
    block := ⟨8, 8, 16⟩
    memory := mixedMemory
    register := mixedRegister
    head := 9
    type := ⟨.backwardKeyValue, false⟩ }
  operands := KernelType.operands ⟨.backwardKeyValue, false⟩
  cached := .empty
  paddedHead := 16
  threadgroupMemory := 512
  threadgroupSize := 32

/-- Buffers for both. -/
def mixedBuffers : Buffers Float32 :=
  Buffers.empty.allocate nineKeys [.q, .k, .v, .o, .l, .dO, .d, .dQ, .dV, .dST] 1

theorem matrix_eq_of_backwardPair_mixed : ∃ middle after rows columns, ∃ place : ScorePair Float32,
    reportRun ⟨mixedQuery, nineKeys⟩ mixedBuffers = .ok (middle, rows) ∧
    reportRun ⟨mixedScores, nineKeys⟩ middle = .ok (after, columns) ∧
    (∃ row ∈ rows, row.1 = 2 ∧ row.2[8]? = some place) ∧
    (∃ column ∈ columns, column.1 = 8 ∧ column.2[2]? = some place) ∧
    (after.get .dST)[2 * 32 + 8]? = some (Precision.round .bf16 place.derivative) ∧
    (after.get .dST)[2 * 32 + 9]? = (mixedBuffers.get .dST)[2 * 32 + 9]? := by
  have pair : BackwardPair mixedQuery mixedScores :=
    ⟨by rfl, by rfl, rfl, rfl, fun _ _ => rfl, fun _ _ => rfl, by rfl, by rfl⟩
  have checkedQuery : check ⟨mixedQuery, nineKeys⟩ mixedBuffers = .ok () := by rfl
  have checkedKey : check ⟨mixedScores, nineKeys⟩ mixedBuffers = .ok () := by rfl
  obtain ⟨middle, after, rows, columns, matrix, -, reportedRows, -, reportedColumns, isRows, isColumns, scores⟩ :=
    matrix_eq_of_backwardPair pair ⟨by decide, by decide⟩ checkedQuery checkedKey
  obtain ⟨row, inRows, isRow⟩ :=
    List.mem_map.mp (isRows.once.mem_iff.mpr (List.mem_range.mpr (by decide : 2 < nineKeys.extents.row.toNat)))
  obtain ⟨column, inColumns, isColumn⟩ :=
    List.mem_map.mp (isColumns.once.mem_iff.mpr (List.mem_range.mpr (by decide : 8 < nineKeys.extents.column.toNat)))
  have foundRow := isRows.found row inRows 8 (by decide)
  have foundColumn := isColumns.found column inColumns 2 (by decide)
  rw [isRow] at foundRow
  rw [isColumn] at foundColumn
  obtain ⟨stored, kept⟩ := scores rfl 2 (by decide)
  exact ⟨middle, after, rows, columns, matrix 2 8, reportedRows, reportedColumns, ⟨row, inRows, isRow, foundRow⟩,
    ⟨column, inColumns, isColumn, foundColumn⟩, stored 8 (by decide), kept 9 (by decide) (by decide)⟩

end KernelForge.Attention
