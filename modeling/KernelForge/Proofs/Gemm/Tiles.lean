import KernelForge.Proofs.Gemm.Edge
import KernelForge.Proofs.Gemm.Kernel
import KernelForge.Proofs.Gemm.Recurrence

/-!
The tiles of a threadgroup and what they hold. A tile that runs may stick out of a matrix that is smaller
than a block, and what it holds there is never looked at; so the invariant of the schedule speaks only about
the elements inside the matrix, while every step has to succeed on all of them. `Tiled.update` is the one
place where this is argued: all phases of the schedule are updates of the tiles.
-/

namespace KernelForge.Gemm

variable {α : Type}

namespace Launch

/-- A launch that every phase of the schedule can rely on. -/
structure Ready (launch : Launch α) : Prop where
  regular : Regular launch.kernel
  transpose : launch.kernel.descriptor.transpose = launch.problem.transpose
  biasAxis : launch.kernel.descriptor.bias.axis = launch.problem.bias.axis
  m_pos : 0 < launch.m
  n_pos : 0 < launch.n
  k_pos : 0 < launch.k
  reaches : ∀ operand, ∀ row < (launch.problem.shape operand).rows.toNat,
    ∀ column < (launch.problem.shape operand).columns.toNat,
    launch.problem.position operand row column < (launch.buffers.get operand).size
  bias : launch.problem.biasSize.toNat ≤ launch.buffers.bias.size
  stride : launch.n ≤ launch.problem.strides.c.toNat

/-- A place of the grid: where its group lies along both axes, and how far it moved back. -/
structure Placed (launch : Launch α) (place : Place) : Prop where
  rows : GroupAlong launch.m launch.groupM launch.tileM place.row
  columns : GroupAlong launch.n launch.groupN launch.tileN place.column
  shiftedRow : place.shiftedRow = shiftedStart launch.m launch.groupM launch.tileM place.row
  shiftedColumn : place.shiftedColumn = shiftedStart launch.n launch.groupN launch.tileN place.column
  direct : place.direct = true → launch.groupM ≤ launch.m ∧ launch.groupN ≤ launch.n ∧
    place.row < launch.m - launch.m % launch.groupM ∧ place.column < launch.n - launch.n % launch.groupN

/-- An element of the block belongs to a tile that runs. -/
def Active (launch : Launch α) (place : Place) (row column : Nat) : Prop :=
  ActiveAlong launch.m launch.groupM launch.tileM place.row row ∧
    ActiveAlong launch.n launch.groupN launch.tileN place.column column

/-- An element of the block lies inside the product. -/
def Inside (launch : Launch α) (place : Place) (row column : Nat) : Prop :=
  place.shiftedRow + row < launch.m ∧ place.shiftedColumn + column < launch.n

theorem Ready.tileM_pos {launch : Launch α} (ready : launch.Ready) : 0 < launch.tileM :=
  Nat.pos_of_mul_pos_right (ready.regular.tiles_m ▸ ready.regular.block_m)

theorem Ready.tileN_pos {launch : Launch α} (ready : launch.Ready) : 0 < launch.tileN :=
  Nat.pos_of_mul_pos_right (ready.regular.tiles_n ▸ ready.regular.block_n)

theorem Ready.placed {launch : Launch α} (ready : launch.Ready) {x y : Nat}
    (inRows : y * launch.groupM < launch.m) (inColumns : x * launch.groupN < launch.n) :
    launch.Placed (launch.place x y) where
  rows := ⟨ready.tileM_pos, ⟨_, ready.regular.tiles_m.symm⟩, ready.regular.block_m, ⟨y, Nat.mul_comm _ _⟩, inRows⟩
  columns :=
    ⟨ready.tileN_pos, ⟨_, ready.regular.tiles_n.symm⟩, ready.regular.block_n, ⟨x, Nat.mul_comm _ _⟩, inColumns⟩
  shiftedRow := rfl
  shiftedColumn := rfl
  direct := by
    intro direct
    simp only [place, Bool.and_eq_true, decide_eq_true_eq] at direct
    exact ⟨direct.1.1.1.2, direct.1.1.2, direct.1.2, direct.2⟩

/-- Where the matrix is at least a block in both directions, tiles that run lie inside it. -/
theorem Placed.inside {launch : Launch α} {place : Place} (placed : launch.Placed place)
    (tall : launch.groupM ≤ launch.m) (wide : launch.groupN ≤ launch.n) {row column : Nat}
    (active : launch.Active place row column) : launch.Inside place row column := by
  unfold Inside
  rw [placed.shiftedRow, placed.shiftedColumn]
  exact ⟨placed.rows.active_inside tall active.1, placed.columns.active_inside wide active.2⟩

end Launch

/-- A tile with all its values, each of which belongs to a tile that runs. -/
structure Tile.Laid (launch : Launch α) (place : Place) (tile : Tile α) : Prop where
  length : tile.values.length = launch.tileM * launch.tileN
  active : ∀ index < launch.tileM * launch.tileN,
    launch.Active place (tile.row + index / launch.tileN) (tile.column + index % launch.tileN)

/-- A tile of values, of which those inside the product are known. -/
structure Tile.Holds (launch : Launch α) (place : Place) (value : Nat → Nat → α) (tile : Tile α) : Prop where
  length : tile.values.length = launch.tileM * launch.tileN
  active : ∀ index < launch.tileM * launch.tileN,
    launch.Active place (tile.row + index / launch.tileN) (tile.column + index % launch.tileN)
  known : ∀ index entry, tile.values[index]? = some entry →
    launch.Inside place (tile.row + index / launch.tileN) (tile.column + index % launch.tileN) →
    entry = value (place.shiftedRow + (tile.row + index / launch.tileN))
      (place.shiftedColumn + (tile.column + index % launch.tileN))

/-- The tiles of a threadgroup: they cover all that runs, and hold what is known inside the product. -/
structure Launch.Tiled (launch : Launch α) (place : Place) (value : Nat → Nat → α) (tiles : List (Tile α)) :
    Prop where
  holds : ∀ tile ∈ tiles, tile.Holds launch place value
  covers : ∀ row column, launch.Active place row column → ∃ tile ∈ tiles,
    ∃ index < launch.tileM * launch.tileN,
      tile.row + index / launch.tileN = row ∧ tile.column + index % launch.tileN = column

namespace Launch

variable {launch : Launch α} {place : Place} {before after : Nat → Nat → α} {tiles : List (Tile α)}

/-- A rule updates one tile when it succeeds wherever the tile runs and is right inside the product. -/
theorem updateTile_holds {rule : Nat → Nat → α → Except Failure α} {tile : Tile α}
    (holds : tile.Holds launch place before)
    (each : ∀ row column entry, launch.Active place row column →
      (launch.Inside place row column → entry = before (place.shiftedRow + row) (place.shiftedColumn + column)) →
      ∃ result, rule row column entry = .ok result ∧ (launch.Inside place row column →
        result = after (place.shiftedRow + row) (place.shiftedColumn + column))) :
    ∃ next, launch.updateTile rule tile = .ok next ∧ next.row = tile.row ∧ next.column = tile.column ∧
      next.Holds launch place after := by
  obtain ⟨values, changed, length, known⟩ := overRectangle_total launch.tileN
    (fun row column entry => rule (tile.row + row) (tile.column + column) entry)
    (fun index result =>
      launch.Inside place (tile.row + index / launch.tileN) (tile.column + index % launch.tileN) →
        result = after (place.shiftedRow + (tile.row + index / launch.tileN))
          (place.shiftedColumn + (tile.column + index % launch.tileN))) tile.values
    (by
      intro index entry found
      have below : index < launch.tileM * launch.tileN :=
        holds.length ▸ (List.getElem?_eq_some_iff.mp found).1
      exact each _ _ entry (holds.active index below) (holds.known index entry found))
  refine ⟨{ tile with values }, ?_, rfl, rfl, length.trans holds.length, holds.active, known⟩
  simp [updateTile, changed, bind, Except.bind, pure, Except.pure]

/-- The step that all phases share: an update of every tile. -/
theorem Tiled.update {rule : Nat → Nat → α → Except Failure α} (tiled : launch.Tiled place before tiles)
    (each : ∀ row column entry, launch.Active place row column →
      (launch.Inside place row column → entry = before (place.shiftedRow + row) (place.shiftedColumn + column)) →
      ∃ result, rule row column entry = .ok result ∧ (launch.Inside place row column →
        result = after (place.shiftedRow + row) (place.shiftedColumn + column))) :
    ∃ next, tiles.mapM (launch.updateTile rule) = .ok next ∧ launch.Tiled place after next := by
  obtain ⟨next, updated, related⟩ := mapM_total (launch.updateTile rule)
    (fun tile changed => changed.row = tile.row ∧ changed.column = tile.column ∧
      changed.Holds launch place after) tiles
    (fun tile member => updateTile_holds (tiled.holds tile member) each)
  refine ⟨next, updated, ?_, ?_⟩
  · intro changed member
    obtain ⟨tile, -, -, -, holds⟩ := exists_left_of_forall₂ related member
    exact holds
  · intro row column active
    obtain ⟨tile, member, index, below, atRow, atColumn⟩ := tiled.covers row column active
    obtain ⟨changed, found, rowKept, columnKept, -⟩ := exists_right_of_forall₂ related member
    exact ⟨changed, found, index, below, by rw [rowKept, atRow], by rw [columnKept, atColumn]⟩

end Launch

end KernelForge.Gemm
