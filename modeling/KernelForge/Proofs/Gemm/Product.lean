import Mathlib.Algebra.Ring.Nat
import KernelForge.Proofs.Gemm.Buffers
import KernelForge.Proofs.Gemm.Depth

/-!
What a run leaves in the product. A threadgroup writes the elements of its own block and no other cell, and
what it writes is the recurrence of the element; together the groups of the grid own every element. So a run
cannot fail, and it computes the recurrence everywhere, however its blocks moved and whichever way they were
stored.
-/

namespace KernelForge.Gemm.Launch

variable {α : Type} [Register α] {launch : Launch α} {place : Place} {tiles : List (Tile α)}

open Register

/-- What a cell of the product may be set to: the element that lies there. -/
def Correct (launch : Launch α) (cell : Nat) (value : α) : Prop :=
  ∀ row < launch.m, ∀ column < launch.n, cell = launch.problem.position .c row column →
    value = launch.productEntry row column

/-- The cells of the elements that a group owns. -/
def Owned (launch : Launch α) (x y cell : Nat) : Prop :=
  ∃ row < launch.m, ∃ column < launch.n, row / launch.groupM = y ∧ column / launch.groupN = x ∧
    cell = launch.problem.position .c row column

omit [Register α] in
theorem position_injective (ready : launch.Ready) {row column row' column' : Nat} (inside : column < launch.n)
    (inside' : column' < launch.n)
    (equal : launch.problem.position .c row column = launch.problem.position .c row' column') :
    row = row' ∧ column = column' :=
  rowMajor_injective (Nat.lt_of_lt_of_le inside ready.stride) (Nat.lt_of_lt_of_le inside' ready.stride) equal

theorem store_written (ready : launch.Ready) {product : Array α}
    (size : product.size = launch.buffers.c.size) {row column : Nat} (inRows : row < launch.m)
    (inColumns : column < launch.n) {value : α}
    (correct : round (launch.kernel.memory .c) value = launch.productEntry row column) :
    ∃ next, launch.store product row column value = .ok next ∧
      Written launch.Correct (· = launch.problem.position .c row column) product next := by
  have inside : launch.problem.position .c row column < product.size :=
    size ▸ ready.reaches .c row inRows column inColumns
  unfold store
  simp only [inRows, inColumns, decide_true, Bool.and_self, if_true]
  refine writeCell_written inside ?_
  intro row' _ column' inColumns' equal
  obtain ⟨rfl, rfl⟩ := position_injective ready inColumns inColumns' equal
  exact correct

omit [Register α] in
/-- All elements of all tiles written one after the other. -/
theorem foldTiles_written {value : Nat → Nat → α} (tiled : launch.Tiled place value tiles)
    (allowed : Nat → α → Prop) (position : Nat → Nat → Nat)
    (write : Array α → Nat → Nat → α → Except Failure (Array α)) (buffer : Array α)
    (each : ∀ row column entry, launch.Active place row column →
      (launch.Inside place row column → entry = value (place.shiftedRow + row) (place.shiftedColumn + column)) →
      ∀ held : Array α, held.size = buffer.size → ∃ next, write held row column entry = .ok next ∧
        Written allowed (· = position row column) held next) :
    ∃ last, tiles.foldlM (fun held tile => tile.values.zipIdx.foldlM (fun held (entry, index) =>
        write held (tile.row + index / launch.tileN) (tile.column + index % launch.tileN) entry) held) buffer =
        .ok last ∧
      Written allowed (fun cell => ∃ row column, launch.Active place row column ∧ cell = position row column)
        buffer last := by
  obtain ⟨last, stored, written⟩ := foldlM_written allowed
    (fun held (tile : Tile α) => tile.values.zipIdx.foldlM (fun held (entry, index) =>
      write held (tile.row + index / launch.tileN) (tile.column + index % launch.tileN) entry) held)
    (fun tile cell => ∃ item ∈ tile.values.zipIdx,
      cell = position (tile.row + item.2 / launch.tileN) (tile.column + item.2 % launch.tileN)) tiles buffer
    (by
      intro tile member held same
      have holds := tiled.holds tile member
      refine foldlM_written allowed _ (fun (item : α × Nat) cell =>
        cell = position (tile.row + item.2 / launch.tileN) (tile.column + item.2 % launch.tileN)) _ held ?_
      rintro ⟨entry, index⟩ found middle alike
      have found := List.mk_mem_zipIdx_iff_getElem?.mp found
      have below : index < launch.tileM * launch.tileN :=
        holds.length ▸ (List.getElem?_eq_some_iff.mp found).1
      exact each _ _ entry (holds.active index below) (holds.known index entry found) middle (alike.trans same))
  refine ⟨last, stored, written.congr fun cell => ⟨?_, ?_⟩⟩
  · rintro ⟨tile, member, ⟨entry, index⟩, found, here⟩
    have holds := tiled.holds tile member
    have found := List.mk_mem_zipIdx_iff_getElem?.mp found
    have below : index < launch.tileM * launch.tileN := holds.length ▸ (List.getElem?_eq_some_iff.mp found).1
    exact ⟨_, _, holds.active index below, here⟩
  · rintro ⟨row, column, active, here⟩
    obtain ⟨tile, member, index, below, rfl, rfl⟩ := tiled.covers row column active
    have inside : index < tile.values.length := (tiled.holds tile member).length ▸ below
    refine ⟨tile, member, (tile.values[index], index), ?_, here⟩
    exact List.mk_mem_zipIdx_iff_getElem?.mpr (List.getElem?_eq_getElem inside)

variable [LawfulRounding α]

omit [LawfulRounding α] in
/-- Straight to device memory: nothing has moved, and the tiles are the block. -/
theorem storeDirect_written (ready : launch.Ready) (placed : launch.Placed place) (direct : place.direct = true)
    {product : Array α} (size : product.size = launch.buffers.c.size)
    (tiled : launch.Tiled place (fun row column => launch.accumulated row column (stepCount launch.k 8)) tiles) :
    ∃ next, launch.storeProduct place tiles product = .ok next ∧
      Written launch.Correct (fun cell => ∃ row < min launch.groupM (launch.m - place.row),
        ∃ column < min launch.groupN (launch.n - place.column),
          cell = launch.problem.position .c (place.row + row) (place.column + column)) product next := by
  simp only [storeProduct, direct, if_true]
  obtain ⟨tall, wide, rowBefore, columnBefore⟩ := placed.direct direct
  obtain ⟨next, stored, written⟩ := foldTiles_written tiled launch.Correct
    (fun row column => launch.problem.position .c (place.shiftedRow + row) (place.shiftedColumn + column))
    (fun held row column entry =>
      launch.store held (place.shiftedRow + row) (place.shiftedColumn + column) entry) product
    (by
      intro row column entry active known held same
      have inside := placed.inside tall wide active
      refine store_written ready (same.trans size) inside.1 inside.2 ?_
      rw [known inside]
      rfl)
  refine ⟨next, stored, written.congr fun cell => ?_⟩
  have rowEnd := placed.rows.end_le_edge rowBefore
  have columnEnd := placed.columns.end_le_edge columnBefore
  rw [placed.shiftedRow, placed.shiftedColumn, shiftedStart_of_lt_edge rowBefore,
    shiftedStart_of_lt_edge columnBefore]
  constructor
  · rintro ⟨row, column, active, here⟩
    have inRows := active.1.1
    have inColumns := active.2.1
    exact ⟨row, by omega, column, by omega, here⟩
  · rintro ⟨row, inRows, column, inColumns, here⟩
    have rowTile := Nat.div_mul_le_self row launch.tileM
    have columnTile := Nat.div_mul_le_self column launch.tileN
    exact ⟨row, column, ⟨⟨by omega, by omega⟩, ⟨by omega, by omega⟩⟩, here⟩

/-- Through a staging block: the part that moved back stays behind, and what is copied was written by a tile. -/
theorem storeStaged_written (ready : launch.Ready) (placed : launch.Placed place)
    (staged : ¬ place.direct = true) {product : Array α} (size : product.size = launch.buffers.c.size)
    (tiled : launch.Tiled place (fun row column => launch.accumulated row column (stepCount launch.k 8)) tiles) :
    ∃ next, launch.storeProduct place tiles product = .ok next ∧
      Written launch.Correct (fun cell => ∃ row < min launch.groupM (launch.m - place.row),
        ∃ column < min launch.groupN (launch.n - place.column),
          cell = launch.problem.position .c (place.row + row) (place.column + column)) product next := by
  simp only [storeProduct, staged, if_false, Bool.false_eq_true]
  obtain ⟨block, stored, written⟩ := foldTiles_written tiled
    (fun cell value => ∀ row column, launch.Active place row column → launch.Inside place row column →
      cell = launch.staged .c row column →
      value = launch.productEntry (place.shiftedRow + row) (place.shiftedColumn + column))
    (launch.staged .c)
    (fun held row column entry =>
      writeCell held (launch.staged .c row column) (round (launch.kernel.memory .c) entry))
    (launch.poisoned .c)
    (by
      intro row column entry active known held same
      refine writeCell_written ?_ ?_
      · rw [same, poisoned_size]
        exact staged_lt (ready.regular.rowLength .c) active.1.1 active.2.1
      · intro row' column' active' inside equal
        obtain ⟨rfl, rfl⟩ := staged_injective ready.regular active.1.1 active.2.1 active'.1.1 active'.2.1 equal
        rw [known inside]
        rfl)
  rw [stored, ok_bind]
  -- What is copied out is the part that the group owns, and there all its tiles are known.
  refine foldlM_rectangle_written launch.Correct _ _ (fun held row column => do
    let value ← readCell block
      (launch.staged .c (place.row - place.shiftedRow + row) (place.column - place.shiftedColumn + column))
    launch.store held (place.row + row) (place.column + column) value)
    (fun row column cell => cell = launch.problem.position .c (place.row + row) (place.column + column))
    product ?_
  intro row inRows column inColumns held same
  have rowInside : place.row + row < launch.m := by omega
  have columnInside : place.column + column < launch.n := by omega
  obtain ⟨rowActive, rowSame⟩ := placed.rows.own_active (show row < launch.groupM by omega) rowInside
  obtain ⟨columnActive, columnSame⟩ :=
    placed.columns.own_active (show column < launch.groupN by omega) columnInside
  rw [← placed.shiftedRow] at rowActive rowSame
  rw [← placed.shiftedColumn] at columnActive columnSame
  obtain ⟨value, found, correct⟩ := written.written _ ⟨_, _, ⟨rowActive, columnActive⟩, rfl⟩
  have entry := correct _ _ ⟨rowActive, columnActive⟩ (by unfold Inside; omega) rfl
  rw [rowSame, columnSame] at entry
  rw [readCell_ok found, ok_bind]
  refine store_written ready (same.trans size) rowInside columnInside ?_
  rw [entry]
  exact LawfulRounding.round_round _ _

theorem storeProduct_written (ready : launch.Ready) (placed : launch.Placed place) {product : Array α}
    (size : product.size = launch.buffers.c.size)
    (tiled : launch.Tiled place (fun row column => launch.accumulated row column (stepCount launch.k 8)) tiles) :
    ∃ next, launch.storeProduct place tiles product = .ok next ∧
      Written launch.Correct (fun cell => ∃ row < min launch.groupM (launch.m - place.row),
        ∃ column < min launch.groupN (launch.n - place.column),
          cell = launch.problem.position .c (place.row + row) (place.column + column)) product next := by
  by_cases direct : place.direct = true
  · exact storeDirect_written ready placed direct size tiled
  · exact storeStaged_written ready placed direct size tiled

omit [Register α] [LawfulRounding α] in
/-- The part of a block inside the product is what its group owns. -/
theorem owned_iff (tall : 0 < launch.groupM) (wide : 0 < launch.groupN) (x y cell : Nat) :
    (∃ row < min launch.groupM (launch.m - y * launch.groupM),
      ∃ column < min launch.groupN (launch.n - x * launch.groupN),
        cell = launch.problem.position .c (y * launch.groupM + row) (x * launch.groupN + column)) ↔
      launch.Owned x y cell := by
  constructor
  · rintro ⟨row, inRows, column, inColumns, here⟩
    obtain ⟨-, rowGroup, -⟩ := rectangle_index (Nat.lt_succ_self y) (show row < launch.groupM by omega)
    obtain ⟨-, columnGroup, -⟩ := rectangle_index (Nat.lt_succ_self x) (show column < launch.groupN by omega)
    exact ⟨_, by omega, _, by omega, rowGroup, columnGroup, here⟩
  · rintro ⟨row, inRows, column, inColumns, rowGroup, columnGroup, here⟩
    have rowSplit : y * launch.groupM + row % launch.groupM = row := rowGroup ▸ Nat.div_add_mod' row launch.groupM
    have columnSplit : x * launch.groupN + column % launch.groupN = column :=
      columnGroup ▸ Nat.div_add_mod' column launch.groupN
    have rowRest : row % launch.groupM < launch.groupM := Nat.mod_lt row tall
    have columnRest : column % launch.groupN < launch.groupN := Nat.mod_lt column wide
    refine ⟨row % launch.groupM, by omega, column % launch.groupN, by omega, ?_⟩
    rw [here, rowSplit, columnSplit]

/-- One threadgroup computes the elements it owns, whatever the others have done before. -/
theorem runGroup_written (ready : launch.Ready) {product : Array α}
    (size : product.size = launch.buffers.c.size) {x y : Nat} (inRows : y * launch.groupM < launch.m)
    (inColumns : x * launch.groupN < launch.n) :
    ∃ next, launch.runGroup product x y = .ok next ∧
      Written launch.Correct (launch.Owned x y) product next := by
  have placed := ready.placed inRows inColumns
  have loads : ∃ loaded, (if launch.problem.loadPreviousC
      then launch.loadProduct (launch.place x y) (launch.tiles (launch.place x y))
      else pure (launch.tiles (launch.place x y))) = .ok loaded ∧
      launch.Tiled (launch.place x y) launch.initial loaded := by
    by_cases load : launch.problem.loadPreviousC = true
    · have same : launch.initial = launch.previous := by
        funext row column
        simp [initial, load]
      rw [if_pos load, same]
      exact loadProduct_tiled ready placed (tiles_tiled ready)
    · have same : launch.initial = fun _ _ => Scalar.zero := by
        funext row column
        simp [initial, load]
      rw [if_neg load, same]
      exact ⟨_, rfl, tiles_tiled ready⟩
  obtain ⟨loaded, load, tiled⟩ := loads
  obtain ⟨biased, bias, tiled⟩ := loadBias_tiled ready tiled
  obtain ⟨direct, multiply, tiled⟩ := multiplyDirect_tiled ready placed tiled
  obtain ⟨summed, staged, tiled⟩ := multiplyStaged_tiled ready tiled
  obtain ⟨next, store, written⟩ := storeProduct_written ready placed size tiled
  refine ⟨next, ?_, written.congr (owned_iff ready.regular.block_m ready.regular.block_n x y)⟩
  have step := congrArg (fun held => held >>= fun loaded => do
    let biased ← launch.loadBias (launch.place x y) loaded
    let direct ← launch.multiplyDirect (launch.place x y) biased
    let summed ← launch.multiplyStaged (launch.place x y) direct
    launch.storeProduct (launch.place x y) summed product) load
  rw [apply_ite fun held => held >>= _] at step
  simpa only [runGroup, ok_bind, bias, multiply, staged, store] using step

/-- Any groups of the grid, one after the other, each writing what it owns. -/
theorem runGroups_written (ready : launch.Ready) (groups : List (Nat × Nat))
    (inside : ∀ group ∈ groups, group.2 * launch.groupM < launch.m ∧ group.1 * launch.groupN < launch.n)
    (product : Array α) (size : product.size = launch.buffers.c.size) :
    ∃ last, launch.runGroups groups product = .ok last ∧
      Written launch.Correct (fun cell => ∃ group ∈ groups, launch.Owned group.1 group.2 cell) product last := by
  refine foldlM_written launch.Correct _ (fun group => launch.Owned group.1 group.2) groups product ?_
  intro group member held same
  exact runGroup_written ready (same.trans size) (inside group member).1 (inside group member).2

/-- As long as extent and size together stay in 32 bits, the number of groups is the one it looks like. -/
theorem ceilDiv_toNat {extent size : UInt32} (positive : 0 < size.toNat)
    (fits : extent.toNat + size.toNat ≤ 2 ^ 32) :
    (ceilDiv extent size).toNat = stepCount extent.toNat size.toNat := by
  have sum : (extent + size - 1).toNat = extent.toNat + size.toNat - 1 := by
    rw [UInt32.toNat_sub, UInt32.toNat_add]
    simp only [UInt32.toNat_one]
    omega
  unfold ceilDiv stepCount
  rw [UInt32.toNat_div, sum]

omit [Register α] [LawfulRounding α] in
theorem mem_groups_iff (tall : 0 < launch.groupM) (wide : 0 < launch.groupN) (fitsM : launch.m + launch.groupM ≤ 2 ^ 32)
    (fitsN : launch.n + launch.groupN ≤ 2 ^ 32) (group : Nat × Nat) :
    group ∈ launch.groups ↔ group.1 < stepCount launch.n launch.groupN ∧
      group.2 < stepCount launch.m launch.groupM := by
  have rows : (ceilDiv launch.problem.extents.m launch.kernel.descriptor.block.m.toUInt32).toNat =
      stepCount launch.m launch.groupM := ceilDiv_toNat tall fitsM
  have columns : (ceilDiv launch.problem.extents.n launch.kernel.descriptor.block.n.toUInt32).toNat =
      stepCount launch.n launch.groupN := ceilDiv_toNat wide fitsN
  obtain ⟨x, y⟩ := group
  simp [groups, Kernel.grid, rows, columns]
  tauto

omit [Register α] [LawfulRounding α] in
/-- A kernel that was accepted passes its own check of the staging memory. -/
theorem checkStaging_ok (fits : max (launch.kernel.blockBytes .a + launch.kernel.blockBytes .b)
      (launch.kernel.blockBytes .c) ≤ launch.kernel.threadgroupMemory.toNat) : launch.checkStaging = .ok () := by
  unfold checkStaging
  rw [if_neg]
  exact Nat.not_lt.mpr fits

omit [Register α] [LawfulRounding α] in
theorem checkTiles_ok (ready : launch.Ready) : launch.checkTiles = .ok () := by
  have tall := ready.tileM_pos
  have wide := ready.tileN_pos
  unfold checkTiles
  rw [if_neg]
  simp only [Bool.or_eq_true, Bool.and_eq_true, decide_eq_true_eq]
  omega

/-- An accepted kernel on a problem it was made for, with buffers that hold their matrices. The sizes are
    those of unbounded arithmetic. -/
structure Admissible (launch : Launch α) : Prop where
  made : ∃ descriptor, Kernel.ofDescriptor descriptor = .ok launch.kernel
  splits : launch.kernel.descriptor.splits.m.toNat < 8192 ∧ launch.kernel.descriptor.splits.n.toNat < 8192
  memory : launch.kernel.descriptor.memory = launch.problem.memory
  transpose : launch.kernel.descriptor.transpose = launch.problem.transpose
  biasAxis : launch.kernel.descriptor.bias.axis = launch.problem.bias.axis
  extents : 0 < launch.m ∧ 0 < launch.n ∧ 0 < launch.k
  grid : launch.m + launch.groupM ≤ 2 ^ 32 ∧ launch.n + launch.groupN ≤ 2 ^ 32
  stride : launch.n ≤ launch.problem.strides.c.toNat
  matrices : ∀ operand, launch.problem.exactSize operand ≤ (launch.buffers.get operand).size
  bias : launch.problem.biasSize.toNat ≤ launch.buffers.bias.size

omit [Register α] [LawfulRounding α] in
theorem Admissible.ready (admissible : launch.Admissible) : launch.Ready := by
  obtain ⟨descriptor, made⟩ := admissible.made
  have accepted := accepted_of_ofDescriptor made
  have splits := admissible.splits
  rw [accepted.descriptor_eq] at splits
  exact {
    regular := accepted.regular splits.1 splits.2
    transpose := admissible.transpose
    biasAxis := admissible.biasAxis
    m_pos := admissible.extents.1
    n_pos := admissible.extents.2.1
    k_pos := admissible.extents.2.2
    reaches := fun operand _ inRows _ inColumns =>
      Nat.lt_of_lt_of_le (launch.problem.position_lt operand inRows inColumns) (admissible.matrices operand)
    bias := admissible.bias
    stride := admissible.stride }

omit [Register α] [LawfulRounding α] in
theorem checkMatch_ok (admissible : launch.Admissible) : launch.checkMatch = .ok () := by
  obtain ⟨tall, wide, deep⟩ := admissible.extents
  have positive {extent : UInt32} (some : 0 < extent.toNat) : extent ≠ 0 := by
    rintro rfl
    exact absurd some (by decide)
  simp [checkMatch, admissible.memory, admissible.transpose, admissible.biasAxis, positive tall, positive wide,
    positive deep]

/-- A run computes the recurrence of every element, and changes no other cell of the product's buffer. -/
theorem run_written (admissible : launch.Admissible) :
    ∃ product, launch.run = .ok product ∧
      Written launch.Correct (fun cell => ∃ row < launch.m, ∃ column < launch.n,
        cell = launch.problem.position .c row column) launch.buffers.c product := by
  have ready := admissible.ready
  have inGrid := mem_groups_iff ready.regular.block_m ready.regular.block_n admissible.grid.1 admissible.grid.2
  obtain ⟨product, ran, written⟩ := runGroups_written ready launch.groups (by
    intro group member
    obtain ⟨inColumns, inRows⟩ := (inGrid group).mp member
    exact ⟨lt_of_lt_stepCount ready.regular.block_m inRows, lt_of_lt_stepCount ready.regular.block_n inColumns⟩)
    launch.buffers.c rfl
  refine ⟨product, ?_, written.congr fun cell => ⟨?_, ?_⟩⟩
  · unfold run
    rw [checkMatch_ok admissible, launch.problem.checkBuffers_ok launch.buffers true
      (fun operand _ => admissible.matrices operand) admissible.bias, checkTiles_ok ready,
      checkStaging_ok ready.regular.memory]
    exact ran
  · rintro ⟨-, -, row, inRows, column, inColumns, -, -, here⟩
    exact ⟨row, inRows, column, inColumns, here⟩
  · rintro ⟨row, inRows, column, inColumns, here⟩
    refine ⟨(column / launch.groupN, row / launch.groupM), (inGrid _).mpr ⟨?_, ?_⟩, row, inRows, column, inColumns,
      rfl, rfl, here⟩
    · exact div_lt_stepCount ready.regular.block_n inColumns
    · exact div_lt_stepCount ready.regular.block_m inRows

end KernelForge.Gemm.Launch
