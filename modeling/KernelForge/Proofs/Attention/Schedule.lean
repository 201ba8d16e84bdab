import KernelForge.Proofs.Attention.Elements
import KernelForge.Proofs.Attention.Journal

/-!
How the work of an attention kernel is split and ordered does not matter. Every row of a pass stores its own elements of
the results, each of them once, and reads nothing that any row stores. So whatever the size of the threadgroups and
whichever order they run in, a run ends with the same buffers, and it has written every element of the results exactly
once and nothing else.
-/

namespace KernelForge.Attention

namespace Launch

open Buffers Journal Register SoftmaxRegister

variable {α : Type} [SoftmaxRegister α] {launch : Launch} {buffers : Buffers α} {operand : Operand}

/-! ### One row -/

section Stores

variable {journal : Journal α} (fits : launch.Fits buffers)
  (agrees : Agrees launch.kernel.descriptor.type.results buffers journal.buffers)
  (member : operand ∈ launch.kernel.descriptor.type.results) {index : Nat} (inside : index < launch.parallelCount)
include fits agrees member inside

theorem Fits.storeRowOn_logged (matrix : operand ≠ .dST) {values : List α} (full : values.length = launch.width operand)
    (fine : ∀ element < launch.width operand,
      round (launch.kernel.memory operand) (values[element]?.getD Scalar.zero) =
        launch.entry buffers operand index element) :
    ∃ next, launch.storeRowOn operand index values journal = .ok next ∧
      Logged (launch.Expected buffers) (launch.operandCells index operand) journal next := by
  have isWidth : launch.width operand = (launch.problem.layout operand).head := if_neg matrix
  have isPlace : ∀ element,
      launch.place operand index element = (launch.problem.layout operand).position index element :=
    fun _ => if_neg matrix
  have inLength := inside
  rw [← layout_length fits.known member matrix] at inLength
  have long := fits.long operand (KernelType.mem_operands_of_result fits.known member) matrix
  rw [← agrees.size operand] at long
  have rounded : values.map (round (launch.kernel.memory operand)) =
      (List.range (launch.problem.layout operand).head).map (launch.entry buffers operand index) := by
    rw [← isWidth]
    refine List.ext_getElem (by simp [full]) fun element first second => ?_
    have below : element < launch.width operand := by simpa using second
    rw [List.getElem_map, List.getElem_map, List.getElem_range, ← fine element below]
    simp [full, below]
  obtain ⟨next, stored, logged⟩ := setRow_logged (launch.entry buffers operand index) inLength long
    (by
      intro element below
      rw [← isPlace]
      exact fits.expected_entry member inside (isWidth ▸ below))
  refine ⟨next, ?_, ?_⟩
  · rw [storeRowOn, rounded]
    exact stored
  · simp only [operandCells, isWidth, isPlace]
    exact logged

theorem Fits.storeCellOn_logged {element cell : Nat} {value : α} (below : element < launch.width operand)
    (isPlace : cell = launch.place operand index element)
    (fine : round (launch.kernel.memory operand) value = launch.entry buffers operand index element) :
    ∃ next, launch.storeCellOn operand cell value journal = .ok next ∧
      Logged (launch.Expected buffers) [(operand, cell)] journal next := by
  subst isPlace
  refine setCell_logged ?_ ?_
  · rw [agrees.size]
    exact fits.place_lt member inside below
  · rw [fine]
    exact fits.expected_entry member inside below

/-- A row term is one cell. -/
theorem Fits.storeTermOn_logged (vector : operand ∈ [Operand.l, .d]) {value : α}
    (fine : round (launch.kernel.memory operand) value = launch.entry buffers operand index 0) :
    ∃ next, launch.storeCellOn operand index value journal = .ok next ∧
      Logged (launch.Expected buffers) (launch.operandCells index operand) journal next := by
  have shape : launch.width operand = 1 ∧ launch.place operand index 0 = index := by
    simp only [List.mem_cons, List.not_mem_nil, or_false] at vector
    rcases vector with rfl | rfl <;> simp [width, place, Problem.layout, Layout.position]
  have cells : launch.operandCells index operand = [(operand, index)] := by
    simp [operandCells, shape]
  rw [cells]
  exact fits.storeCellOn_logged agrees member inside (by rw [shape.1]; exact Nat.one_pos) shape.2.symm fine

end Stores

section Rows

variable {journal : Journal α} (fits : launch.Fits buffers)
  (agrees : Agrees launch.kernel.descriptor.type.results buffers journal.buffers) {index : Nat}
  (inside : index < launch.parallelCount)
include fits agrees inside

theorem Fits.forwardOn_logged (isForward : launch.kernel.descriptor.type.pass = .forward) :
    ∃ next, launch.forwardOn index journal = .ok next ∧
      Logged (launch.Expected buffers) (launch.rowCells index) journal next := by
  have results : launch.kernel.descriptor.type.results =
      .o :: if launch.kernel.descriptor.type.secondary then [.l] else [] := if_pos isForward
  have computed : launch.forwardRow (Memory.view journal) index = .ok (launch.rowSoftmax buffers index) := by
    rw [← (Alike.refl launch).rowSoftmax (fits.get_input agrees) isForward]
    exact (fits.agrees agrees).forwardRow_eq isForward index
  obtain ⟨middle, storedRow, first⟩ := fits.storeRowOn_logged agrees (by simp [results]) inside
    (by decide : Operand.o ≠ .dST) (launch.length_rowSoftmax buffers index) fun _ _ => rfl
  cases secondary : launch.kernel.descriptor.type.secondary with
  | false =>
    refine ⟨middle, ?_, ?_⟩
    · rw [forwardOn, computed, ok_bind, storedRow, ok_bind, secondary]
      rfl
    · simpa [rowCells, results, secondary] using first
  | true =>
    have later := agrees.trans (first.agrees (by simp [operandCells, results]))
    have isSum : round (launch.kernel.memory .l) ((launch.rowSoftmax buffers index).greatest +
        log2 (launch.rowSoftmax buffers index).total) = launch.entry buffers .l index 0 := rfl
    obtain ⟨next, storedSum, second⟩ :=
      fits.storeTermOn_logged later (by simp [results, secondary]) inside (by simp) isSum
    refine ⟨next, ?_, ?_⟩
    · rw [forwardOn, computed, ok_bind, storedRow, ok_bind, secondary]
      exact storedSum
    · simpa [rowCells, results, secondary] using first.trans second

theorem Fits.backwardQueryOn_logged (isQuery : launch.kernel.descriptor.type.pass = .backwardQuery) :
    ∃ next, launch.backwardQueryOn index journal = .ok next ∧
      Logged (launch.Expected buffers) (launch.rowCells index) journal next := by
  have inRows : index < launch.rowCount := by
    rwa [parallelCount, isQuery] at inside
  have results : launch.kernel.descriptor.type.results =
      .d :: if launch.kernel.descriptor.type.secondary then [.dQ] else [] := by
    rw [KernelType.results, isQuery]
    rfl
  have computed : launch.rowTerm (Memory.view journal) index = .ok (launch.rowProduct buffers index) := by
    rw [← (Alike.refl launch).rowProduct (fits.get_input agrees) isQuery]
    exact (fits.agrees agrees).rowTerm_eq isQuery inRows
  have isTerm : round (launch.kernel.memory .d) (launch.rowProduct buffers index) = launch.entry buffers .d index 0 :=
    rfl
  obtain ⟨middle, storedTerm, first⟩ := fits.storeTermOn_logged agrees (by simp [results]) inside (by simp) isTerm
  cases secondary : launch.kernel.descriptor.type.secondary with
  | false =>
    refine ⟨middle, ?_, ?_⟩
    · rw [backwardQueryOn, computed, ok_bind, storedTerm, ok_bind, secondary]
      rfl
    · simpa [rowCells, results, secondary] using first
  | true =>
    have type : launch.kernel.descriptor.type = ⟨.backwardQuery, true⟩ := by
      rw [← isQuery, ← secondary]
    -- The derivative is computed after the row term was stored; nothing it reads has changed.
    have later := agrees.trans (first.agrees (by simp [operandCells, results]))
    have same := fits.get_input later
    have derived : launch.queryDerivative (Memory.view middle) index (launch.rowProduct buffers index) =
        .ok ((List.range launch.head).map (launch.querySum buffers index)) := by
      rw [← (Alike.refl launch).querySum same type, ← (Alike.refl launch).rowProduct same isQuery]
      exact (fits.agrees later).queryDerivative_eq type inRows
    have full : ((List.range launch.head).map (launch.querySum buffers index)).length = launch.width .dQ := by
      rw [List.length_map, List.length_range]
      rfl
    obtain ⟨next, storedRow, second⟩ := fits.storeRowOn_logged later (by simp [results, secondary]) inside
      (by decide) full fun element (below : element < launch.head) => by
        rw [getElem?_map_range _ below]
        rfl
    refine ⟨next, ?_, ?_⟩
    · rw [backwardQueryOn, computed, ok_bind, storedTerm, ok_bind, secondary, if_pos rfl, derived, ok_bind]
      exact storedRow
    · simpa [rowCells, results, secondary] using first.trans second

end Rows

/-- The cells of the stored derivative of the scores in one step. -/
def stepCells (launch : Launch) (index start : Nat) : List (Operand × Nat) :=
  (List.range launch.step).flatMap fun offset =>
    if start + offset < launch.rowCount then [(.dST, launch.place .dST index (start + offset))] else []

omit [SoftmaxRegister α] in
/-- All steps together. -/
theorem flatMap_stepCells (launch : Launch) (positive : 0 < launch.step) (index : Nat) :
    (launch.stepStarts launch.rowCount).flatMap (launch.stepCells index) = launch.operandCells index .dST := by
  have covered : launch.rowCount ≤ (launch.rowCount + launch.step - 1) / launch.step * launch.step :=
    le_ceil_mul positive
  obtain ⟨rest, split⟩ := Nat.exists_eq_add_of_le covered
  calc (launch.stepStarts launch.rowCount).flatMap (launch.stepCells index)
      = ((launch.stepStarts launch.rowCount).flatMap fun start => (List.range launch.step).map (start + ·)).flatMap
          fun row => if row < launch.rowCount then [(Operand.dST, launch.place .dST index row)] else [] := by
        simp only [List.flatMap_assoc, List.flatMap_map]
        rfl
    _ = launch.operandCells index .dST := by
        have beyond : (List.range rest).flatMap (fun row => if launch.rowCount + row < launch.rowCount then
            [(Operand.dST, launch.place .dST index (launch.rowCount + row))] else []) = [] :=
          List.flatMap_eq_nil_iff.mpr fun row _ => if_neg (by omega)
        rw [flatMap_stepStarts, split, List.range_add, List.flatMap_append, List.flatMap_map, beyond, List.append_nil,
          operandCells, List.map_eq_flatMap]
        exact List.flatMap_congr fun row below => if_pos (List.mem_range.mp below)

omit [SoftmaxRegister α] in
/-- What a step of the pass for keys and values writes is a result of that pass. -/
theorem mem_results_of_stepCells (isKey : launch.kernel.descriptor.type.pass = .backwardKeyValue) {index start : Nat}
    {cell : Operand × Nat}
    (member : cell ∈ if launch.kernel.descriptor.type.secondary then [] else launch.stepCells index start) :
    cell.1 ∈ launch.kernel.descriptor.type.results := by
  split at member
  · cases member
  · rename_i single
    obtain ⟨offset, -, here⟩ := List.mem_flatMap.mp member
    split at here
    · rw [List.mem_singleton.mp here]
      simp [KernelType.results, isKey, single]
    · cases here

section Columns

variable {journal : Journal α} (fits : launch.Fits buffers)
  (agrees : Agrees launch.kernel.descriptor.type.results buffers journal.buffers) {index : Nat}
  (inside : index < launch.parallelCount)
include fits agrees inside

theorem Fits.storeScores_logged (member : .dST ∈ launch.kernel.descriptor.type.results) (start : Nat) :
    ∃ next, (launch.keyPairs buffers index start).zipIdx.foldlM (fun held (pair, offset) =>
        if start + offset < launch.rowCount then
          launch.storeCellOn .dST ((start + offset) * launch.problem.scoreStride.toNat + index) pair.derivative held
        else return held) journal = .ok next ∧
      Logged (launch.Expected buffers) (launch.stepCells index start) journal next := by
  rw [keyPairs, zipIdx_map_range, List.foldlM_map]
  refine foldlM_logged (launch.Expected buffers) launch.kernel.descriptor.type.results _ _ (List.range launch.step)
    journal ?_ ?_
  · intro offset cell here
    split at here
    · rw [List.mem_singleton.mp here]
      exact member
    · cases here
  · intro offset _ held later
    dsimp only
    by_cases inRows : start + offset < launch.rowCount
    · rw [if_pos inRows, if_pos inRows]
      exact fits.storeCellOn_logged (agrees.trans later) member inside inRows rfl rfl
    · rw [if_neg inRows, if_neg inRows]
      exact ⟨held, rfl, .refl held⟩

variable (isKey : launch.kernel.descriptor.type.pass = .backwardKeyValue)
include isKey

theorem Fits.advanceKeyOn_logged (sums : KeySums α) (start : Nat) :
    ∃ next, launch.advanceKeyOn index (launch.loadedRow buffers .k index) (launch.loadedRow buffers .v index) start
        (sums, journal) = .ok (launch.advanceSums buffers index sums start, next) ∧
      Logged (launch.Expected buffers)
        (if launch.kernel.descriptor.type.secondary then [] else launch.stepCells index start) journal next := by
  have inputs := KernelType.inputs_keyValue isKey
  have queries : launch.loadRows (Memory.view journal) .q start = .ok (launch.loadedRows buffers .q start) :=
    fits.loadRows_during agrees .q (by simp [inputs]) rfl start
  have derivatives : launch.loadRows (Memory.view journal) .dO start = .ok (launch.loadedRows buffers .dO start) :=
    fits.loadRows_during agrees .dO (by simp [inputs]) rfl start
  have pairs : launch.keyStep (Memory.view journal) (launch.loadedRow buffers .k index)
      (launch.loadedRow buffers .v index) start (launch.loadedRows buffers .q start)
      (launch.loadedRows buffers .dO start) = .ok (launch.keyPairs buffers index start) :=
    fits.keyStep_during agrees isKey index start
  cases secondary : launch.kernel.descriptor.type.secondary with
  | true =>
    refine ⟨journal, ?_, .refl journal⟩
    simp only [advanceKeyOn, queries, derivatives, pairs, ok_bind, secondary, if_true, advanceSums]
    rfl
  | false =>
    have member : .dST ∈ launch.kernel.descriptor.type.results := by
      simp [KernelType.results, isKey, secondary]
    obtain ⟨next, stored, logged⟩ := fits.storeScores_logged agrees inside member start
    refine ⟨next, ?_, logged⟩
    simp only [advanceKeyOn, queries, derivatives, pairs, ok_bind, secondary, Bool.false_eq_true, if_false, stored,
      advanceSums]
    rfl

/-- All steps of a column. -/
theorem Fits.keyTotals_logged :
    ∃ next, (launch.stepStarts launch.rowCount).foldlM (fun state start => launch.advanceKeyOn index
        (launch.loadedRow buffers .k index) (launch.loadedRow buffers .v index) start state)
        (⟨List.replicate launch.head Scalar.zero, List.replicate launch.head Scalar.zero⟩, journal) =
          .ok (launch.keyTotals buffers index, next) ∧
      Logged (launch.Expected buffers)
        (if launch.kernel.descriptor.type.secondary then [] else launch.operandCells index .dST) journal next := by
  obtain ⟨next, folded, logged⟩ := foldlM_sums_logged (launch.Expected buffers) launch.kernel.descriptor.type.results
    (fun state start => launch.advanceKeyOn index (launch.loadedRow buffers .k index)
      (launch.loadedRow buffers .v index) start state)
    (launch.advanceSums buffers index) _ (launch.stepStarts launch.rowCount)
    ⟨List.replicate launch.head Scalar.zero, List.replicate launch.head Scalar.zero⟩ journal
    (fun start cell here => mem_results_of_stepCells isKey here)
    fun start _ sums held later => fits.advanceKeyOn_logged (agrees.trans later) inside isKey sums start
  refine ⟨next, folded, ?_⟩
  split
  · rename_i secondary
    rw [List.flatMap_eq_nil_iff.mpr fun start _ => if_pos secondary] at logged
    exact logged
  · rename_i single
    rw [← launch.flatMap_stepCells fits.step]
    simpa [single] using logged

theorem Fits.backwardKeyValueOn_logged :
    ∃ next, launch.backwardKeyValueOn index journal = .ok next ∧
      Logged (launch.Expected buffers) (launch.rowCells index) journal next := by
  have results : launch.kernel.descriptor.type.results =
      [.dV, if launch.kernel.descriptor.type.secondary then .dK else .dST] := by
    simp [KernelType.results, isKey]
  have inputs := KernelType.inputs_keyValue isKey
  have key : launch.loadRow (Memory.view journal) .k index = .ok (launch.loadedRow buffers .k index) :=
    fits.loadRow_during agrees .k (by simp [inputs]) rfl index
  have value : launch.loadRow (Memory.view journal) .v index = .ok (launch.loadedRow buffers .v index) :=
    fits.loadRow_during agrees .v (by simp [inputs]) rfl index
  obtain ⟨summed, folded, first⟩ := fits.keyTotals_logged agrees inside isKey
  have later := agrees.trans (first.agrees (by
    intro cell here
    split at here
    · cases here
    · rename_i single
      obtain ⟨_, _, rfl⟩ := List.mem_map.mp here
      simp [results, single]))
  obtain ⟨middle, storedValue, second⟩ := fits.storeRowOn_logged later (by simp [results]) inside
    (by decide : Operand.dV ≠ .dST) (launch.length_keyTotals buffers index).1 fun _ _ => rfl
  cases secondary : launch.kernel.descriptor.type.secondary with
  | true =>
    have latest := later.trans (second.agrees (by simp [operandCells, results]))
    obtain ⟨next, storedKey, third⟩ := fits.storeRowOn_logged latest (by simp [results, secondary]) inside
      (by decide : Operand.dK ≠ .dST) (launch.length_keyTotals buffers index).2 fun _ _ => rfl
    refine ⟨next, ?_, ?_⟩
    · simp only [backwardKeyValueOn, key, value, ok_bind, folded, storedValue, secondary, if_true]
      exact storedKey
    · simpa [rowCells, results, secondary] using (first.trans second).trans third
  | false =>
    refine ⟨middle, ?_, ?_⟩
    · simp only [backwardKeyValueOn, key, value, ok_bind, folded, storedValue, secondary, Bool.false_eq_true, if_false]
      rfl
    · -- The scores are stored along the way, before the sum that stands first among the results.
      refine (first.trans second).perm ?_
      simpa [rowCells, results, secondary] using List.perm_append_comm

end Columns

/-- One row, or column, of any pass, after any others. -/
theorem Fits.rowOn_logged {journal : Journal α} (fits : launch.Fits buffers)
    (agrees : Agrees launch.kernel.descriptor.type.results buffers journal.buffers) {index : Nat}
    (inside : index < launch.parallelCount) :
    ∃ next, launch.rowOn index journal = .ok next ∧
      Logged (launch.Expected buffers) (launch.rowCells index) journal next := by
  have passes : ∀ type ∈ KernelType.all,
      type.pass = .forward ∨ type.pass = .backwardQuery ∨ type.pass = .backwardKeyValue := by decide
  unfold rowOn
  rcases passes _ fits.known with isForward | isQuery | isKey
  · rw [isForward]
    exact fits.forwardOn_logged agrees inside isForward
  · rw [isQuery]
    exact fits.backwardQueryOn_logged agrees inside isQuery
  · rw [isKey]
    exact fits.backwardKeyValueOn_logged agrees inside isKey

/-! ### All threadgroups -/

omit [SoftmaxRegister α] in
theorem toNat_grid (short : launch.problem.Short) (positive : 0 < launch.groupSize) :
    (launch.kernel.grid launch.problem.extents).toNat =
      (launch.parallelCount + launch.groupSize - 1) / launch.groupSize := by
  have ceil : ∀ (length : UInt32) (size : UInt16), length.toNat ≤ 2 ^ 31 → 0 < size.toNat →
      ((length + size.toUInt32 - 1) / size.toUInt32).toNat = (length.toNat + size.toNat - 1) / size.toNat := by
    intro length size short positive
    have small := UInt16.toNat_lt size
    rw [UInt32.toNat_div, UInt32.toNat_sub, UInt32.toNat_add, UInt16.toNat_toUInt32]
    simp only [UInt32.toNat_one]
    congr 1
    omega
  unfold Kernel.grid parallelCount
  dsimp only
  split
  · exact ceil _ _ short.columns positive
  · exact ceil _ _ short.rows positive

omit [SoftmaxRegister α] in
/-- Whichever order the threadgroups run in, together they go through the whole sequence. -/
theorem perm_groupRows (short : launch.problem.Short) (positive : 0 < launch.groupSize) {groups : List Nat}
    (perm : groups.Perm (List.range (launch.kernel.grid launch.problem.extents).toNat)) :
    (groups.flatMap launch.groupRows).Perm (List.range launch.parallelCount) := by
  refine (List.perm_ext_iff_of_nodup ?_ List.nodup_range).mpr fun index => ?_
  · refine List.nodup_flatMap.mpr ⟨fun group _ => List.nodup_range' .., ?_⟩
    refine (perm.nodup_iff.mpr List.nodup_range).imp fun {group group'} different => ?_
    rw [Function.onFun, List.disjoint_left]
    intro index here there
    exact different (((launch.mem_groupRows positive group index).mp here).2.symm.trans
      ((launch.mem_groupRows positive group' index).mp there).2)
  · simp only [List.mem_flatMap, mem_groupRows launch positive, perm.mem_iff, List.mem_range]
    constructor
    · rintro ⟨group, -, inside, -⟩
      exact inside
    · intro inside
      refine ⟨index / launch.groupSize, ?_, inside, rfl⟩
      rw [toNat_grid short positive]
      have covered : launch.parallelCount ≤ _ := le_ceil_mul positive
      exact (Nat.div_lt_iff_lt_mul positive).mpr (Nat.lt_of_lt_of_le inside covered)

/-- A run over all threadgroups writes every element of the results once, and nothing else. -/
theorem Fits.groupsOn_perm (fits : launch.Fits buffers) (short : launch.problem.Short) {groups : List Nat}
    (perm : groups.Perm (List.range (launch.kernel.grid launch.problem.extents).toNat)) :
    ∃ last, launch.groupsOn groups (Journal.mk buffers []) = .ok last ∧
      Stored (launch.Expected buffers) (launch.problem.IsResult launch.kernel.descriptor.type) buffers last.buffers ∧
      last.written.Nodup ∧ ∀ operand cell,
        (operand, cell) ∈ last.written ↔ launch.problem.IsResult launch.kernel.descriptor.type operand cell := by
  obtain ⟨last, ran, logged⟩ := launch.groupsOn_logged (launch.Expected buffers) launch.kernel.descriptor.type.results
    launch.rowCells groups ⟨buffers, []⟩ fits.group
    (by
      rintro index ⟨operand, cell⟩ here
      exact (mem_rowCells.mp here).1)
    (by
      intro index inside held agrees
      exact fits.rowOn_logged agrees inside)
  have all := logged.perm ((perm_groupRows short fits.group perm).flatMap_right launch.rowCells)
  refine ⟨last, ran, all.stored.congr fun operand cell => (isResult_iff fits.known operand cell).symm, ?_, ?_⟩
  · exact all.written.nodup_iff.mpr fits.nodup_cells
  · intro operand cell
    rw [all.written.mem_iff, isResult_iff fits.known]
    exact Iff.rfl

/-- The elements of the results are determined. -/
theorem Fits.expected_unique (fits : launch.Fits buffers) (operand : Operand) (cell : Nat) (one other : α)
    (result : launch.problem.IsResult launch.kernel.descriptor.type operand cell)
    (fineOne : launch.Expected buffers operand cell one) (fineOther : launch.Expected buffers operand cell other) :
    one = other := by
  rw [isResult_iff fits.known, List.mem_flatMap] at result
  obtain ⟨index, inside, here⟩ := result
  obtain ⟨member, element, below, equal⟩ := mem_rowCells.mp here
  have isOne := fineOne member index (List.mem_range.mp inside) element below equal
  exact isOne.trans (fineOther member index (List.mem_range.mp inside) element below equal).symm

/-- What a run leaves, element by element. -/
theorem Fits.run_stored (fits : launch.Fits buffers) (short : launch.problem.Short)
    (checked : launch.check buffers = .ok ()) :
    ∃ after, launch.run buffers = .ok after ∧
      Stored (launch.Expected buffers) (launch.problem.IsResult launch.kernel.descriptor.type) buffers after := by
  obtain ⟨last, ran, stored, -⟩ := fits.groupsOn_perm short (List.Perm.refl _)
  refine ⟨last.buffers, ?_, stored⟩
  rw [run, checked, ok_bind, ← map_groupsOn launch _ (Journal.mk buffers []), ran]
  rfl

theorem Fits.get_entry {after : Buffers α} (fits : launch.Fits buffers)
    (stored : Stored (launch.Expected buffers) (launch.problem.IsResult launch.kernel.descriptor.type) buffers after)
    (member : operand ∈ launch.kernel.descriptor.type.results) {index element : Nat}
    (inside : index < launch.parallelCount) (below : element < launch.width operand) :
    (after.get operand)[launch.place operand index element]? = some (launch.entry buffers operand index element) := by
  have here : (operand, launch.place operand index element) ∈
      (List.range launch.parallelCount).flatMap launch.rowCells :=
    List.mem_flatMap.mpr ⟨index, List.mem_range.mpr inside, mem_rowCells.mpr ⟨member, element, below, rfl⟩⟩
  obtain ⟨value, found, expected⟩ := (stored operand).written _ ((isResult_iff fits.known _ _).mpr here)
  rw [found, expected member index inside element below rfl]

/-! ### The numerics decide -/

namespace Alike

variable {first second : Launch} (alike : first.Alike second)
include alike

omit [SoftmaxRegister α] in
theorem width (operand : Operand) : first.width operand = second.width operand := by
  unfold Launch.width
  rw [alike.problem, alike.rowCount]

omit [SoftmaxRegister α] in
theorem place (operand : Operand) : first.place operand = second.place operand := by
  funext index element
  unfold Launch.place
  rw [alike.problem]

theorem entry (known : second.kernel.descriptor.type ∈ KernelType.all) {operand : Operand}
    (member : operand ∈ second.kernel.descriptor.type.results) (buffers : Buffers α) :
    first.entry buffers operand = second.entry buffers operand := by
  have kinds : ∀ type ∈ KernelType.all, ∀ operand ∈ type.results,
      (operand ∈ [Operand.o, .l] ∧ type.pass = .forward) ∨ (operand = .d ∧ type.pass = .backwardQuery) ∨
        (operand = .dQ ∧ type = ⟨.backwardQuery, true⟩) ∨
          (operand ∈ [Operand.dV, .dK, .dST] ∧ type.pass = .backwardKeyValue) := by decide
  funext index element
  unfold Launch.entry
  rw [alike.memory]
  rcases kinds _ known _ member with ⟨rows, isForward⟩ | ⟨rfl, isQuery⟩ | ⟨rfl, isQuery⟩ | ⟨columns, isKey⟩
  · rw [alike.rowSoftmax (fun _ _ => rfl) isForward]
    simp only [List.mem_cons, List.not_mem_nil, or_false] at rows
    rcases rows with rfl | rfl <;> rfl
  · rw [alike.rowProduct (fun _ _ => rfl) isQuery]
  · rw [alike.querySum (fun _ _ => rfl) isQuery]
  · rw [alike.keyTotals (fun _ _ => rfl) isKey, alike.keyPair (fun _ _ => rfl) isKey]
    simp only [List.mem_cons, List.not_mem_nil, or_false] at columns
    rcases columns with rfl | rfl | rfl <;> rfl

/-- The same is stored in the same places. -/
theorem expected (known : second.kernel.descriptor.type ∈ KernelType.all) (buffers : Buffers α) :
    first.Expected buffers = second.Expected buffers := by
  funext operand cell value
  unfold Launch.Expected
  rw [alike.type, alike.parallelCount, alike.width, alike.place]
  refine propext (forall_congr' fun member => ?_)
  rw [alike.entry known member]

end Alike

end Launch

/-- Descriptors that round and step alike. What a threadgroup owns, how it loads its operands and which inputs it keeps
    in registers is left open. -/
structure Descriptor.SameNumerics (first second : Descriptor) : Prop where
  type : first.type = second.type
  head : first.head = second.head
  traversal : first.block.traversal = second.block.traversal
  memory : first.memory = second.memory
  register : first.register = second.register
  cache : ∀ operand ∈ second.type.accumulators.toList, first.cache.contains operand = second.cache.contains operand

namespace Launch

open Buffers

theorem alike_of_sameNumerics {first second : Kernel} (problem : Problem)
    (acceptedFirst : Kernel.ofDescriptor first.descriptor = .ok first)
    (acceptedSecond : Kernel.ofDescriptor second.descriptor = .ok second)
    (same : first.descriptor.SameNumerics second.descriptor) : Alike ⟨first, problem⟩ ⟨second, problem⟩ := by
  refine ⟨rfl, same.type, congrArg UInt16.toNat same.traversal, ?_, ?_, ?_⟩
  · funext operand
    exact congrArg (Precisions.get · operand) same.memory
  · funext operand
    exact congrArg (Precisions.get · operand) same.register
  · intro operand sum
    have cachedFirst := (made_of_ofDescriptor acceptedFirst).cached
    have cachedSecond := (made_of_ofDescriptor acceptedSecond).cached
    simp only [Kernel.isCached, cachedFirst, cachedSecond, OperandSet.contains_inter, same.type,
      same.cache operand sum]

variable {α : Type} [SoftmaxRegister α]

omit [SoftmaxRegister α] in
theorem check_of_sameNumerics {first second : Kernel} {problem : Problem} {buffers : Buffers α}
    (same : first.descriptor.SameNumerics second.descriptor) (checked : check ⟨first, problem⟩ buffers = .ok ()) :
    check ⟨second, problem⟩ buffers = .ok () := by
  dsimp only [check] at checked ⊢
  rw [← same.type, ← same.head]
  exact checked

/-- Any order of all threadgroups ends with the buffers that the results determine. -/
theorem Fits.groupsOn_eq {launch : Launch} {buffers after : Buffers α} (fits : launch.Fits buffers)
    (short : launch.problem.Short)
    (stored : Stored (launch.Expected buffers) (launch.problem.IsResult launch.kernel.descriptor.type) buffers after)
    {groups : List Nat} (perm : groups.Perm (List.range (launch.kernel.grid launch.problem.extents).toNat)) :
    ∃ written, launch.groupsOn groups (Journal.mk buffers []) = .ok ⟨after, written⟩ ∧ written.Nodup ∧
      ∀ operand cell,
        (operand, cell) ∈ written ↔ launch.problem.IsResult launch.kernel.descriptor.type operand cell := by
  obtain ⟨⟨reached, written⟩, ran, storedReached, once, cells⟩ := fits.groupsOn_perm short perm
  obtain rfl : reached = after := storedReached.unique fits.expected_unique stored
  exact ⟨written, ran, once, cells⟩

end Launch

open Launch Buffers

/-- Two accepted kernels with the same numerics leave the same in all buffers, in whichever order their threadgroups
    run. No access is out of range, every element of the results is written exactly once, and nothing else is. -/
theorem run_eq_of_sameNumerics {α : Type} [SoftmaxRegister α] {first second : Kernel} {problem : Problem}
    {buffers : Buffers α} (acceptedFirst : Kernel.ofDescriptor first.descriptor = .ok first)
    (acceptedSecond : Kernel.ofDescriptor second.descriptor = .ok second)
    (same : first.descriptor.SameNumerics second.descriptor) (short : problem.Short)
    (checked : check ⟨first, problem⟩ buffers = .ok ()) :
    ∃ after,
      (∀ operand ∉ first.descriptor.type.results, after.get operand = buffers.get operand) ∧
      (∀ operand cell, ¬ problem.IsResult first.descriptor.type operand cell →
        (after.get operand)[cell]? = (buffers.get operand)[cell]?) ∧
      ∀ kernel ∈ [first, second], run ⟨kernel, problem⟩ buffers = .ok after ∧
        ∀ groups : List Nat, groups.Perm (List.range (kernel.grid problem.extents).toNat) →
          runGroups ⟨kernel, problem⟩ groups buffers = .ok after ∧
          ∃ written, groupsOn ⟨kernel, problem⟩ groups (Journal.mk buffers []) = .ok ⟨after, written⟩ ∧
            written.Nodup ∧ ∀ operand cell,
              (operand, cell) ∈ written ↔ problem.IsResult first.descriptor.type operand cell := by
  have alike := alike_of_sameNumerics problem acceptedFirst acceptedSecond same
  have checkedSecond := check_of_sameNumerics same checked
  have fits : Fits ⟨first, problem⟩ buffers := fits_of_check acceptedFirst short checked
  have fitsSecond : Fits ⟨second, problem⟩ buffers :=
    fits_of_check acceptedSecond short checkedSecond
  obtain ⟨⟨after, _⟩, -, stored, -⟩ := fits.groupsOn_perm short (List.Perm.refl _)
  have storedSecond : Stored (Launch.Expected ⟨second, problem⟩ buffers) (problem.IsResult second.descriptor.type)
      buffers after := by
    rw [← alike.expected fitsSecond.known, ← same.type]
    exact stored
  have each : ∀ kernel ∈ [first, second], check ⟨kernel, problem⟩ buffers = .ok () ∧
      ∀ groups : List Nat, groups.Perm (List.range (kernel.grid problem.extents).toNat) →
        ∃ written, groupsOn ⟨kernel, problem⟩ groups (Journal.mk buffers []) = .ok ⟨after, written⟩ ∧
          written.Nodup ∧ ∀ operand cell,
            (operand, cell) ∈ written ↔ problem.IsResult first.descriptor.type operand cell := by
    intro kernel member
    rcases List.mem_pair.mp member with rfl | rfl
    · exact ⟨checked, fun groups perm => fits.groupsOn_eq short stored perm⟩
    · rw [same.type]
      exact ⟨checkedSecond, fun groups perm => fitsSecond.groupsOn_eq short storedSecond perm⟩
  refine ⟨after, ?_, fun operand cell outside => (stored operand).kept cell outside, ?_⟩
  · exact (stored.agrees fun operand cell here => here.1).kept
  · intro kernel member
    obtain ⟨checkedKernel, orders⟩ := each kernel member
    have ran : ∀ groups : List Nat, groups.Perm (List.range (kernel.grid problem.extents).toNat) →
        runGroups ⟨kernel, problem⟩ groups buffers = .ok after := by
      intro groups perm
      obtain ⟨written, noted, -⟩ := orders groups perm
      rw [← map_groupsOn ⟨kernel, problem⟩ groups (Journal.mk buffers []), noted]
      rfl
    refine ⟨?_, fun groups perm => ⟨ran groups perm, orders groups perm⟩⟩
    rw [run, checkedKernel, ok_bind]
    exact ran _ (List.Perm.refl _)

/-- A pass for keys and values that stores the derivative of the scores, with small blocks. -/
def narrowScores : Kernel where
  descriptor := {
    block := ⟨8, 8, 8⟩
    memory := Precisions.unset.setAll Operand.all .fp32
    register := Precisions.unset.setAll Operand.all .fp32
    head := 9
    type := ⟨.backwardKeyValue, false⟩ }
  operands := KernelType.operands ⟨.backwardKeyValue, false⟩
  cached := .empty
  paddedHead := 16
  threadgroupMemory := 256
  threadgroupSize := 32

/-- As `narrowScores`, with blocks twice as large that keep their inputs and load them otherwise. -/
def broadScores : Kernel where
  descriptor := {
    narrowScores.descriptor with
    block := ⟨16, 8, 16⟩
    cache := .ofList [.k, .v]
    transposed := .ofList [.q]
    asyncCache := true
    asyncLoad := true }
  operands := narrowScores.operands
  cached := .ofList [.k, .v]
  paddedHead := 16
  threadgroupMemory := 1024
  threadgroupSize := 64

/-- Three queries and nine keys, which two threadgroups of `narrowScores` divide among them. -/
def nineKeys : Problem where
  extents := { row := 3, column := 9, head := 9 }

/-- Buffers for them. -/
def nineKeysBuffers : Buffers Float32 :=
  Buffers.empty.allocate nineKeys (KernelType.operands ⟨.backwardKeyValue, false⟩).toList 1

theorem run_eq_of_sameNumerics_nineKeys : ∃ after written,
    run ⟨narrowScores, nineKeys⟩ nineKeysBuffers = .ok after ∧
    run ⟨broadScores, nineKeys⟩ nineKeysBuffers = .ok after ∧
    groupsOn ⟨narrowScores, nineKeys⟩ [1, 0] (Journal.mk nineKeysBuffers []) = .ok ⟨after, written⟩ ∧
    written.Nodup ∧ (.dST, 2 * 32 + 8) ∈ written := by
  have acceptedFirst : Kernel.ofDescriptor narrowScores.descriptor = .ok narrowScores := by rfl
  have acceptedSecond : Kernel.ofDescriptor broadScores.descriptor = .ok broadScores := by rfl
  have same : narrowScores.descriptor.SameNumerics broadScores.descriptor :=
    ⟨rfl, rfl, rfl, rfl, rfl, by decide⟩
  have checked : check ⟨narrowScores, nineKeys⟩ nineKeysBuffers = .ok () := by rfl
  obtain ⟨after, -, -, each⟩ := run_eq_of_sameNumerics acceptedFirst acceptedSecond same ⟨by decide, by decide⟩ checked
  obtain ⟨ran, orders⟩ := each narrowScores (by simp)
  obtain ⟨-, written, noted, once, cells⟩ := orders [1, 0] (List.Perm.swap 0 1 [])
  refine ⟨after, written, ran, (each broadScores (by simp)).1, noted, once, (cells _ _).mpr ⟨by decide, ?_⟩⟩
  exact ⟨2, by decide, 8, by decide, rfl⟩

end KernelForge.Attention
