import KernelForge.Proofs.Gemm.Outline

/-!
The stores of a threadgroup. What a group stores, and where, does not depend on the product it finds: `groupStores`
lists the cells and their values in order, and running the group is writing that list. The cells are those of the
elements that the group owns, in both ways to store a block and for every kernel that was accepted.
-/

namespace KernelForge

variable {α ι : Type}

/-- A buffer after a list of stores, each a cell and its value. -/
def applied (stores : List (Nat × α)) (buffer : Array α) : Array α :=
  stores.foldl (fun held store => held.setIfInBounds store.1 store.2) buffer

theorem size_applied (stores : List (Nat × α)) (buffer : Array α) : (applied stores buffer).size = buffer.size := by
  induction stores generalizing buffer with
  | nil => rfl
  | cons store rest ih => exact (ih _).trans Array.size_setIfInBounds

theorem foldlM_writeCell_ok_iff {stores : List (Nat × α)} {buffer next : Array α} :
    stores.foldlM (fun held store => writeCell held store.1 store.2) buffer = .ok next ↔
      (∀ store ∈ stores, store.1 < buffer.size) ∧ next = applied stores buffer := by
  induction stores generalizing buffer with
  | nil => simp [applied, pure, Except.pure, eq_comm]
  | cons store rest ih =>
    rw [List.foldlM_cons]
    by_cases inside : store.1 < buffer.size
    · rw [writeCell, if_pos inside, ok_bind, ih]
      simp [applied, inside]
    · rw [writeCell, if_neg inside, error_bind]
      simp [inside]

/-- A loop that computes one store after the other and makes it. -/
theorem foldlM_stores_ok_iff (store : ι → Except Failure (Nat × α)) {items : List ι} {buffer next : Array α} :
    items.foldlM (fun held item => store item >>= fun place => writeCell held place.1 place.2) buffer = .ok next ↔
      ∃ stores, items.mapM store = .ok stores ∧ (∀ place ∈ stores, place.1 < buffer.size) ∧
        next = applied stores buffer := by
  simp only [← foldlM_writeCell_ok_iff]
  induction items generalizing buffer with
  | nil => simp [pure, Except.pure]
  | cons head tail ih =>
    rw [List.foldlM_cons, List.mapM_cons]
    cases computed : store head with
    | error failure => simp [error_bind]
    | ok place =>
      simp only [ok_bind]
      constructor
      · intro reached
        obtain ⟨middle, written, rest⟩ := bind_ok_iff.mp reached
        obtain ⟨stores, traversed, made⟩ := ih.mp rest
        refine ⟨place :: stores, ?_, ?_⟩
        · rw [traversed, ok_bind]
          rfl
        · rw [List.foldlM_cons, written, ok_bind, made]
      · rintro ⟨stores, traversed, made⟩
        obtain ⟨others, traversedRest, equal⟩ := bind_ok_iff.mp traversed
        cases equal
        rw [List.foldlM_cons] at made
        obtain ⟨middle, written, rest⟩ := bind_ok_iff.mp made
        rw [written, ok_bind]
        exact ih.mpr ⟨others, traversedRest, rest⟩

end KernelForge

namespace KernelForge.Gemm.Launch

variable {α : Type}

/-- The values of tiles, each with its row and column in the block. -/
def entries (launch : Launch α) (tiles : List (Tile α)) : List (Nat × Nat × α) :=
  tiles.flatMap fun tile => tile.values.zipIdx.map fun (value, index) =>
    (tile.row + index / launch.tileN, tile.column + index % launch.tileN, value)

theorem foldlM_entries {σ : Type} (launch : Launch α) (step : σ → Nat → Nat → α → Except Failure σ)
    (tiles : List (Tile α)) (state : σ) :
    tiles.foldlM (fun held tile => tile.values.zipIdx.foldlM (fun held (value, index) =>
        step held (tile.row + index / launch.tileN) (tile.column + index % launch.tileN) value) held) state =
      (launch.entries tiles).foldlM (fun held entry => step held entry.1 entry.2.1 entry.2.2) state := by
  induction tiles generalizing state with
  | nil => rfl
  | cons tile rest ih =>
    rw [List.foldlM_cons, entries, List.flatMap_cons, List.foldlM_append, List.foldlM_map]
    exact bind_congr ih

variable [Register α]

/-- A store of an element of the product: the cell of the element, and its value in the format of memory. -/
def cellStore (launch : Launch α) (row column : Nat) (value : α) : Except Failure (Nat × α) :=
  if row < launch.m && column < launch.n then
    .ok (launch.problem.position .c row column, Register.round (launch.kernel.memory .c) value)
  else throw launch.outside

/-- The stores of a block from its tiles. A block that is staged is copied row by row, behind the part that it shares
    with its neighbours. -/
def placeStores (launch : Launch α) (place : Place) (tiles : List (Tile α)) : Except Failure (List (Nat × α)) := do
  if place.direct then
    (launch.entries tiles).mapM fun entry =>
      launch.cellStore (place.shiftedRow + entry.1) (place.shiftedColumn + entry.2.1) entry.2.2
  else
    let block ← (launch.entries tiles).foldlM (fun held entry =>
      writeCell held (launch.staged .c entry.1 entry.2.1) (Register.round (launch.kernel.memory .c) entry.2.2))
      (launch.poisoned .c)
    let rows := min launch.groupM (launch.m - place.row)
    let columns := min launch.groupN (launch.n - place.column)
    (List.range (rows * columns)).mapM fun index => do
      let value ← readCell block (launch.staged .c (place.row - place.shiftedRow + index / columns)
        (place.column - place.shiftedColumn + index % columns))
      launch.cellStore (place.row + index / columns) (place.column + index % columns) value

/-- The stores of a threadgroup, in their order. -/
def groupStores (launch : Launch α) (x y : Nat) : Except Failure (List (Nat × α)) := do
  let tiles ← launch.summedTiles (launch.place x y)
  launch.placeStores (launch.place x y) tiles

variable {launch : Launch α} {place : Place} {tiles : List (Tile α)}

theorem store_eq (launch : Launch α) (product : Array α) (row column : Nat) (value : α) :
    launch.store product row column value =
      launch.cellStore row column value >>= fun place => writeCell product place.1 place.2 := by
  unfold store cellStore
  split
  · rfl
  · rfl

theorem storeProduct_ok_iff {product next : Array α} :
    launch.storeProduct place tiles product = .ok next ↔
      ∃ stores, launch.placeStores place tiles = .ok stores ∧ (∀ store ∈ stores, store.1 < product.size) ∧
        next = applied stores product := by
  dsimp only [storeProduct, placeStores]
  by_cases direct : place.direct = true
  · rw [if_pos direct, if_pos direct, launch.foldlM_entries (fun held row column value =>
      launch.store held (place.shiftedRow + row) (place.shiftedColumn + column) value)]
    simp only [store_eq]
    exact foldlM_stores_ok_iff _
  · rw [if_neg direct, if_neg direct, launch.foldlM_entries (fun held row column value =>
      writeCell held (launch.staged .c row column) (Register.round (launch.kernel.memory .c) value))]
    cases staged : (launch.entries tiles).foldlM (fun held entry => writeCell held (launch.staged .c entry.1 entry.2.1)
        (Register.round (launch.kernel.memory .c) entry.2.2)) (launch.poisoned .c) with
    | error failure => simp [error_bind]
    | ok block =>
      simp only [ok_bind, store_eq, ← bind_assoc]
      exact foldlM_stores_ok_iff _

/-- A threadgroup makes its stores, whatever product it finds. -/
theorem runGroup_ok_iff {product next : Array α} {x y : Nat} :
    launch.runGroup product x y = .ok next ↔
      ∃ stores, launch.groupStores x y = .ok stores ∧ (∀ store ∈ stores, store.1 < product.size) ∧
        next = applied stores product := by
  rw [runGroup_eq, bind_ok_iff]
  constructor
  · rintro ⟨tiles, summed, stored⟩
    obtain ⟨stores, listed, rest⟩ := storeProduct_ok_iff.mp stored
    exact ⟨stores, by rw [groupStores, summed, ok_bind, listed], rest⟩
  · rintro ⟨stores, listed, rest⟩
    obtain ⟨tiles, summed, listed⟩ := bind_ok_iff.mp listed
    exact ⟨tiles, summed, storeProduct_ok_iff.mpr ⟨stores, listed, rest⟩⟩

/-- The stores of a group of the grid; none if it fails. -/
def storesOf (launch : Launch α) (group : Nat × Nat) : List (Nat × α) :=
  (launch.groupStores group.1 group.2).toOption.getD []

theorem storesOf_eq {group : Nat × Nat} {stores : List (Nat × α)}
    (listed : launch.groupStores group.1 group.2 = .ok stores) : launch.storesOf group = stores := by
  rw [storesOf, listed]
  rfl

theorem runGroups_ok_iff {order : List (Nat × Nat)} {product next : Array α} :
    launch.runGroups order product = .ok next ↔
      (∀ group ∈ order, launch.groupStores group.1 group.2 = .ok (launch.storesOf group) ∧
        ∀ store ∈ launch.storesOf group, store.1 < product.size) ∧
      next = order.foldl (fun held group => applied (launch.storesOf group) held) product := by
  unfold runGroups
  induction order generalizing product with
  | nil => simp [pure, Except.pure, eq_comm]
  | cons group rest ih =>
    rw [List.foldlM_cons, bind_ok_iff]
    constructor
    · rintro ⟨middle, ran, reached⟩
      obtain ⟨stores, listed, inside, rfl⟩ := runGroup_ok_iff.mp ran
      obtain ⟨others, equal⟩ := ih.mp reached
      have isStores := storesOf_eq listed
      rw [size_applied] at others
      refine ⟨?_, by rw [equal, List.foldl_cons, isStores]⟩
      intro other member
      rcases List.mem_cons.mp member with rfl | member
      · rw [isStores]
        exact ⟨listed, inside⟩
      · exact others other member
    · rintro ⟨each, equal⟩
      obtain ⟨listed, inside⟩ := each group (by simp)
      refine ⟨_, runGroup_ok_iff.mpr ⟨_, listed, inside, rfl⟩, ih.mpr ⟨?_, equal⟩⟩
      intro other member
      rw [size_applied]
      exact each other (by simp [member])

/-! ### The cells of the stores -/

theorem cellStore_ok_iff {row column : Nat} {value : α} {store : Nat × α} :
    launch.cellStore row column value = .ok store ↔ (row < launch.m ∧ column < launch.n) ∧
      store = (launch.problem.position .c row column, Register.round (launch.kernel.memory .c) value) := by
  unfold cellStore
  by_cases inside : row < launch.m ∧ column < launch.n
  · simp [inside, eq_comm]
  · rw [if_neg (by simpa using inside)]
    simp [inside, throw, throwThe, MonadExceptOf.throw]

omit [Register α] in
theorem mem_entries {entry : Nat × Nat × α} :
    entry ∈ launch.entries tiles ↔ ∃ tile ∈ tiles, ∃ index, tile.values[index]? = some entry.2.2 ∧
      entry.1 = tile.row + index / launch.tileN ∧ entry.2.1 = tile.column + index % launch.tileN := by
  obtain ⟨row, column, value⟩ := entry
  simp only [entries, List.mem_flatMap, List.mem_map, Prod.exists, List.mk_mem_zipIdx_iff_getElem?, Prod.mk.injEq]
  constructor
  · rintro ⟨tile, member, _, index, found, rfl, rfl, rfl⟩
    exact ⟨tile, member, index, found, rfl, rfl⟩
  · rintro ⟨tile, member, index, found, rfl, rfl⟩
    exact ⟨tile, member, value, index, found, rfl, rfl, rfl⟩

omit [Register α] in
/-- Every value of the tiles belongs to a tile that runs. -/
theorem active_of_mem_entries (laid : ∀ tile ∈ tiles, tile.Laid launch place) {entry : Nat × Nat × α}
    (member : entry ∈ launch.entries tiles) : launch.Active place entry.1 entry.2.1 := by
  obtain ⟨tile, tileMember, index, found, row, column⟩ := mem_entries.mp member
  have lies := laid tile tileMember
  have below : index < launch.tileM * launch.tileN := lies.length ▸ (List.getElem?_eq_some_iff.mp found).1
  rw [row, column]
  exact lies.active index below

/-- Where there are tiles, all that runs is among the values. -/
theorem Checked.exists_entry (checked : launch.Checked) (summed : launch.summedTiles place = .ok tiles)
    (tall : 0 < launch.tileM) (wide : 0 < launch.tileN) {row column : Nat} (active : launch.Active place row column) :
    ∃ value, (row, column, value) ∈ launch.entries tiles := by
  obtain ⟨started, member, index, below, atRow, atColumn⟩ := tiles_cover tall wide (checked.divided.tiles_m tall)
    (checked.divided.tiles_n wide) active
  have found : started.outline ∈ tiles.map Tile.outline :=
    (outlines_of_summedTiles summed).symm ▸ List.mem_map_of_mem member
  obtain ⟨tile, tileMember, equal⟩ := List.mem_map.mp found
  have inside : index < tile.values.length := (checked.laid summed tile tileMember).length ▸ below
  simp only [Tile.outline, Prod.mk.injEq] at equal
  refine ⟨tile.values[index], mem_entries.mpr ⟨tile, tileMember, index, List.getElem?_eq_getElem inside, ?_, ?_⟩⟩
  · rw [equal.1, atRow]
  · rw [equal.2.1, atColumn]

/-- A block that goes straight to device memory has not moved, and its tiles are the block. -/
theorem Checked.mem_directStores_iff (checked : launch.Checked) {x y : Nat} {stores : List (Nat × α)}
    (inRows : y * launch.groupM < launch.m) (inColumns : x * launch.groupN < launch.n)
    (direct : (launch.place x y).direct = true) (summed : launch.summedTiles (launch.place x y) = .ok tiles)
    (listed : launch.placeStores (launch.place x y) tiles = .ok stores) (cell : Nat) :
    (∃ store ∈ stores, store.1 = cell) ↔ ∃ row < min launch.groupM (launch.m - y * launch.groupM),
      ∃ column < min launch.groupN (launch.n - x * launch.groupN),
        cell = launch.problem.position .c (y * launch.groupM + row) (x * launch.groupN + column) := by
  obtain ⟨tall, wide, rowBefore, columnBefore⟩ := large_of_direct direct
  -- A direct block ends before the edge, so all of it is inside and it did not move.
  have rowEnd := (checked.alongRows tall inRows).end_le_edge rowBefore
  have columnEnd := (checked.alongColumns wide inColumns).end_le_edge columnBefore
  have row_eq : (launch.place x y).shiftedRow = y * launch.groupM := shiftedStart_of_lt_edge rowBefore
  have column_eq : (launch.place x y).shiftedColumn = x * launch.groupN := shiftedStart_of_lt_edge columnBefore
  dsimp only [placeStores] at listed
  rw [if_pos direct, row_eq, column_eq] at listed
  have related := forall₂_of_mapM listed
  constructor
  · rintro ⟨store, member, rfl⟩
    obtain ⟨entry, entryMember, stored⟩ := exists_left_of_forall₂ related member
    obtain ⟨-, rfl⟩ := cellStore_ok_iff.mp stored
    have active := active_of_mem_entries (checked.laid summed) entryMember
    have inBlock := active.1.1
    have inBlock' := active.2.1
    exact ⟨entry.1, by omega, entry.2.1, by omega, rfl⟩
  · rintro ⟨row, inBlock, column, inBlock', rfl⟩
    have rowTile := Nat.div_mul_le_self row launch.tileM
    have columnTile := Nat.div_mul_le_self column launch.tileN
    have active : launch.Active (launch.place x y) row column := by
      refine ⟨⟨by omega, ?_⟩, ⟨by omega, ?_⟩⟩
      · change y * launch.groupM + row / launch.tileM * launch.tileM < launch.m
        omega
      · change x * launch.groupN + column / launch.tileN * launch.tileN < launch.n
        omega
    obtain ⟨value, found⟩ := checked.exists_entry summed (checked.tileM_pos tall) (checked.tileN_pos wide) active
    obtain ⟨store, member, stored⟩ := exists_right_of_forall₂ related found
    obtain ⟨-, rfl⟩ := cellStore_ok_iff.mp stored
    exact ⟨_, member, rfl⟩

/-- A block that is staged is copied from its own first row and column on. -/
theorem mem_stagedStores_iff {stores : List (Nat × α)} (staged : ¬ place.direct = true)
    (listed : launch.placeStores place tiles = .ok stores) (cell : Nat) :
    (∃ store ∈ stores, store.1 = cell) ↔ ∃ row < min launch.groupM (launch.m - place.row),
      ∃ column < min launch.groupN (launch.n - place.column),
        cell = launch.problem.position .c (place.row + row) (place.column + column) := by
  dsimp only [placeStores] at listed
  rw [if_neg staged] at listed
  obtain ⟨block, -, listed⟩ := bind_ok_iff.mp listed
  have related := forall₂_of_mapM listed
  constructor
  · rintro ⟨store, member, rfl⟩
    obtain ⟨index, below, stored⟩ := exists_left_of_forall₂ related member
    obtain ⟨value, -, stored⟩ := bind_ok_iff.mp stored
    obtain ⟨-, rfl⟩ := cellStore_ok_iff.mp stored
    obtain ⟨inRows, inColumns⟩ := rectangle_bounds (List.mem_range.mp below)
    exact ⟨_, inRows, _, inColumns, rfl⟩
  · rintro ⟨row, inRows, column, inColumns, rfl⟩
    obtain ⟨below, quotient, rest⟩ := rectangle_index inRows inColumns
    obtain ⟨store, member, stored⟩ := exists_right_of_forall₂ related (List.mem_range.mpr below)
    obtain ⟨value, -, stored⟩ := bind_ok_iff.mp stored
    obtain ⟨-, rfl⟩ := cellStore_ok_iff.mp stored
    exact ⟨_, member, by rw [quotient, rest]⟩

/-- A threadgroup stores exactly the elements it owns. -/
theorem Checked.mem_groupStores_iff (checked : launch.Checked) {x y : Nat} {stores : List (Nat × α)}
    (inRows : y * launch.groupM < launch.m) (inColumns : x * launch.groupN < launch.n)
    (listed : launch.groupStores x y = .ok stores) (cell : Nat) :
    (∃ store ∈ stores, store.1 = cell) ↔ launch.Owned x y cell := by
  obtain ⟨tiles, summed, listed⟩ := bind_ok_iff.mp listed
  rw [← owned_iff checked.divided.block_m checked.divided.block_n]
  by_cases direct : (launch.place x y).direct = true
  · exact checked.mem_directStores_iff inRows inColumns direct summed listed cell
  · exact mem_stagedStores_iff direct listed cell

end KernelForge.Gemm.Launch
