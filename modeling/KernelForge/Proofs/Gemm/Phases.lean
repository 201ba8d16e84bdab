import KernelForge.Proofs.Gemm.Staging
import KernelForge.Proofs.Gemm.Tiles
import KernelForge.Proofs.Rounding

/-!
The phases of a threadgroup before it stores: the tiles start from zero, take the previous product and the
bias, and then sum up the depth, first straight from device memory and then through staging blocks. Each
phase is an update of the tiles, and after all of them the elements inside the product hold the register of
the recurrence after its last slice. What was never written to threadgroup memory is read only by elements
outside the product.
-/

namespace KernelForge.Gemm.Launch

variable {α : Type} [Register α] {launch : Launch α} {place : Place} {tiles : List (Tile α)}

open Register

/-- The tiles that run lie in the block. Tiles without rows or columns have no values to lie anywhere. -/
theorem tiles_laid
    (rowTiles : 0 < launch.tileM → launch.tileM * launch.kernel.descriptor.splits.m.toNat = launch.groupM)
    (columnTiles : 0 < launch.tileN → launch.tileN * launch.kernel.descriptor.splits.n.toNat = launch.groupN)
    {tile : Tile α} (member : tile ∈ launch.tiles place) :
    tile.Laid launch place ∧ ∀ entry ∈ tile.values, entry = Scalar.zero := by
  simp only [tiles, List.mem_filterMap, List.mem_range, Bool.or_eq_true, decide_eq_true_eq] at member
  obtain ⟨index, below, runs⟩ := member
  split at runs
  · cases runs
  · rename_i begins
    cases runs
    obtain ⟨inRows, inColumns⟩ := rectangle_bounds below
    refine ⟨⟨by simp, ?_⟩, fun entry => List.eq_of_mem_replicate⟩
    intro element inTile
    obtain ⟨inTileRows, inTileColumns⟩ := rectangle_bounds inTile
    exact ⟨activeAlong_of_tile (rowTiles (Nat.zero_lt_of_lt inTileRows)) inRows inTileRows (by omega),
      activeAlong_of_tile (columnTiles (Nat.zero_lt_of_lt inTileColumns)) inColumns inTileColumns (by omega)⟩

/-- They cover all that runs. -/
theorem tiles_cover (tall : 0 < launch.tileM) (wide : 0 < launch.tileN)
    (rowTiles : launch.tileM * launch.kernel.descriptor.splits.m.toNat = launch.groupM)
    (columnTiles : launch.tileN * launch.kernel.descriptor.splits.n.toNat = launch.groupN) {row column : Nat}
    (active : launch.Active place row column) : ∃ tile ∈ launch.tiles place,
      ∃ index < launch.tileM * launch.tileN,
        tile.row + index / launch.tileN = row ∧ tile.column + index % launch.tileN = column := by
  obtain ⟨⟨inRows, rowBegins⟩, ⟨inColumns, columnBegins⟩⟩ := active
  have rowIndex : row / launch.tileM < launch.kernel.descriptor.splits.m.toNat :=
    Nat.div_lt_of_lt_mul (rowTiles ▸ inRows)
  have columnIndex : column / launch.tileN < launch.kernel.descriptor.splits.n.toNat :=
    Nat.div_lt_of_lt_mul (columnTiles ▸ inColumns)
  obtain ⟨below, quotient, rest⟩ := rectangle_index rowIndex columnIndex
  obtain ⟨inTile, elementRow, elementColumn⟩ := rectangle_index (Nat.mod_lt row tall) (Nat.mod_lt column wide)
  refine ⟨⟨row / launch.tileM * launch.tileM, column / launch.tileN * launch.tileN,
    List.replicate (launch.tileM * launch.tileN) Scalar.zero⟩, ?_, _, inTile, ?_, ?_⟩
  · simp only [tiles, List.mem_filterMap, List.mem_range]
    refine ⟨_, below, ?_⟩
    simp only [quotient, rest, Bool.or_eq_true, decide_eq_true_eq]
    rw [if_neg (by omega)]
  · rw [elementRow]
    exact Nat.div_add_mod' row launch.tileM
  · rw [elementColumn]
    exact Nat.div_add_mod' column launch.tileN

/-- The tiles that run cover the active part of the block, and begin with zeros. -/
theorem tiles_tiled (ready : launch.Ready) : launch.Tiled place (fun _ _ => Scalar.zero) (launch.tiles place) := by
  refine ⟨?_, ?_⟩
  · intro tile member
    obtain ⟨laid, zeros⟩ :=
      tiles_laid (fun _ => ready.regular.tiles_m) (fun _ => ready.regular.tiles_n) member
    exact ⟨laid.length, laid.active, fun index entry found _ => zeros entry (List.mem_of_getElem? found)⟩
  · intro row column active
    exact tiles_cover ready.tileM_pos ready.tileN_pos ready.regular.tiles_m ready.regular.tiles_n active

theorem read_entry (ready : launch.Ready) (operand : Operand) {row column : Nat}
    (inRows : row < (launch.problem.shape operand).rows.toNat)
    (inColumns : column < (launch.problem.shape operand).columns.toNat) :
    readCell (launch.buffers.get operand) (launch.problem.position operand row column) =
      .ok (launch.entry operand row column) := by
  obtain ⟨value, found, read⟩ := readCell_total (ready.reaches operand row inRows column inColumns)
  rw [read, entry, found]
  rfl

theorem load_ok (ready : launch.Ready) (operand : Operand) {row column : Nat}
    (inRows : row < (launch.problem.shape operand).rows.toNat)
    (inColumns : column < (launch.problem.shape operand).columns.toNat) :
    launch.load operand row column =
      .ok (round (launch.kernel.memory operand) (launch.entry operand row column)) := by
  simp only [load, inRows, inColumns, decide_true, Bool.and_self, if_true]
  rw [read_entry ready operand inRows inColumns]
  rfl

theorem poisoned_size (launch : Launch α) (operand : Operand) :
    (launch.poisoned operand).size = launch.stagedSize operand :=
  Array.size_replicate

omit [Register α] in
/-- The part of a block that is copied is exactly the part inside the product. -/
theorem inside_iff {row column : Nat} (inRows : row < launch.groupM) (inColumns : column < launch.groupN) :
    launch.Inside place row column ↔ row < min launch.groupM (launch.m - place.shiftedRow) ∧
      column < min launch.groupN (launch.n - place.shiftedColumn) := by
  unfold Inside
  omega

/-- The previous product reaches the tiles either way. -/
theorem loadProduct_tiled (ready : launch.Ready) (placed : launch.Placed place) {value : Nat → Nat → α}
    (tiled : launch.Tiled place value tiles) :
    ∃ next, launch.loadProduct place tiles = .ok next ∧ launch.Tiled place launch.previous next := by
  unfold loadProduct
  by_cases direct : place.direct = true
  · simp only [direct, if_true]
    obtain ⟨tall, wide, -, -⟩ := placed.direct direct
    refine tiled.update ?_
    intro row column entry active _
    have inside := placed.inside tall wide active
    refine ⟨launch.previous (place.shiftedRow + row) (place.shiftedColumn + column), ?_, fun _ => rfl⟩
    rw [load_ok ready .c inside.1 inside.2]
    rfl
  · simp only [direct, if_false, Bool.false_eq_true]
    obtain ⟨block, copied, size, content⟩ := copy_staged ready.regular .c
      (Nat.min_le_left launch.groupM (launch.m - place.shiftedRow))
      (Nat.min_le_left launch.groupN (launch.n - place.shiftedColumn))
      (fun row column => launch.load .c (place.shiftedRow + row) (place.shiftedColumn + column))
      (fun row column => round (launch.kernel.memory .c)
        (launch.entry .c (place.shiftedRow + row) (place.shiftedColumn + column)))
      (poisoned_size launch .c)
      (by
        intro row inRows column inColumns
        have inside : launch.Inside place row column := by unfold Inside; omega
        exact load_ok ready .c inside.1 inside.2)
    rw [copied, ok_bind]
    refine tiled.update ?_
    intro row column entry active _
    obtain ⟨held, found, read⟩ := read_staged (ready.regular.rowLength .c) size active.1.1 active.2.1
    rw [read, ok_bind]
    refine ⟨_, rfl, fun inside => ?_⟩
    obtain ⟨inRows, inColumns⟩ := (inside_iff active.1.1 active.2.1).mp inside
    rw [content row inRows column inColumns] at found
    cases found
    rfl

theorem biasValue_ok (launch : Launch α) (index extent : Nat) (positive : 0 < extent)
    (long : extent ≤ launch.buffers.bias.size) :
    ∃ value, launch.biasValue index extent = .ok value ∧ (index < extent → value = launch.biasEntry index) := by
  obtain ⟨value, found, read⟩ := readCell_total
    (show min index (extent - 1) < launch.buffers.bias.size by omega)
  unfold biasValue
  rw [read, ok_bind]
  refine ⟨_, rfl, fun inside => ?_⟩
  rw [Nat.min_eq_left (by omega)] at found
  simp [biasEntry, found]

/-- The bias of an element can be read everywhere, and inside the product it is that of its row or column. -/
theorem axisBias_ok (ready : launch.Ready) (some : launch.kernel.descriptor.bias.axis ≠ .none)
    (place : Place) (row column : Nat) :
    ∃ value, (if launch.kernel.descriptor.bias.axis = .rows
        then launch.biasValue (place.shiftedRow + row) launch.m
        else launch.biasValue (place.shiftedColumn + column) launch.n) = .ok value ∧
      (launch.Inside place row column → value = launch.biasEntry
        (if launch.kernel.descriptor.bias.axis = .rows then place.shiftedRow + row
          else place.shiftedColumn + column)) := by
  have size := ready.bias
  simp only [Problem.biasSize, ← ready.biasAxis] at size
  by_cases rows : launch.kernel.descriptor.bias.axis = .rows
  · simp only [rows, if_true] at size ⊢
    obtain ⟨value, read, right⟩ := biasValue_ok launch (place.shiftedRow + row) launch.m ready.m_pos size
    exact ⟨value, read, fun inside => right inside.1⟩
  · have columns := (ready.regular.bias.resolve_left some).resolve_left rows
    simp only [columns, if_true] at size
    rw [if_neg (by decide)] at size
    simp only [rows, if_false]
    obtain ⟨value, read, right⟩ := biasValue_ok launch (place.shiftedColumn + column) launch.n ready.n_pos size
    exact ⟨value, read, fun inside => right inside.2⟩

theorem loadBias_tiled (ready : launch.Ready) (tiled : launch.Tiled place launch.initial tiles) :
    ∃ next, launch.loadBias place tiles = .ok next ∧ launch.Tiled place launch.biased next := by
  simp only [loadBias]
  by_cases none : launch.kernel.descriptor.bias.axis = .none
  · have same : launch.biased = launch.initial := by
      funext row column
      simp [biased, none]
    rw [if_pos none, same]
    exact ⟨tiles, rfl, tiled⟩
  · rw [if_neg none]
    refine tiled.update ?_
    intro row column entry _ known
    obtain ⟨bias, read, right⟩ := axisBias_ok ready none place row column
    rw [← apply_ite fun value => value >>= fun bias => pure (round (launch.kernel.register .c) (entry + bias)),
      read, ok_bind]
    refine ⟨_, rfl, fun inside => ?_⟩
    rw [known inside, right inside]
    simp [biased, none]

end KernelForge.Gemm.Launch
