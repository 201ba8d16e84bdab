import KernelForge.Proofs.Gemm.Product

/-!
What every accepted kernel does on every problem, whatever its splits, its strides and its grid. Splits that wrap the
16 bit arithmetic of the checks leave tiles without rows or columns, a grid that wraps 32 bits has no groups at all,
and no phase of a threadgroup changes where its tiles lie or how many values they have. So a group that comes to its
stores has the tiles it started with, and all of them lie in its block.
-/

namespace KernelForge.Gemm

/-- A format that is paired with registers has bytes. -/
theorem Precision.size_pos_of_checkPair {memory register : Precision}
    (paired : Precision.checkPair memory register = .ok ()) : 0 < memory.size := by
  unfold Precision.checkPair at paired
  split at paired
  · cases paired
  · rename_i valid
    simp only [Precision.isValid, Bool.or_eq_true, Bool.not_eq_true', not_or, Bool.not_eq_false, beq_iff_eq] at valid
    rcases valid.1 with (rfl | rfl) | rfl <;> decide

/-- A kernel whose tiles fill its block unless they are empty, whose staged rows fit their strides, and whose staging
    blocks fit the memory reserved for them. -/
structure Divided (kernel : Kernel) : Prop where
  tiles_m : 0 < kernel.registerM.toNat →
    kernel.registerM.toNat * kernel.descriptor.splits.m.toNat = kernel.descriptor.block.m.toNat
  tiles_n : 0 < kernel.registerN.toNat →
    kernel.registerN.toNat * kernel.descriptor.splits.n.toNat = kernel.descriptor.block.n.toNat
  block_m : 0 < kernel.descriptor.block.m.toNat
  block_n : 0 < kernel.descriptor.block.n.toNat
  block_k : 0 < kernel.descriptor.block.k.toNat
  depth : 8 ∣ kernel.descriptor.block.k.toNat
  rowLength : ∀ operand,
    (kernel.descriptor.rowLength operand).toNat ≤ (kernel.leading.get operand).toNat
  memory : max (kernel.blockBytes .a + kernel.blockBytes .b) (kernel.blockBytes .c) ≤
    kernel.threadgroupMemory.toNat
  bias : kernel.descriptor.bias.axis = .none ∨ kernel.descriptor.bias.axis = .rows ∨
    kernel.descriptor.bias.axis = .columns

/-- A block is made of 8 by 8 matrices, also where the divisor wrapped. -/
theorem eight_le_of_tiled {block split : UInt16} (some : block ≠ 0) (divides : block % (8 * split) = 0) :
    8 ≤ block.toNat := by
  have remainder : block.toNat % (8 * split).toNat = 0 := by
    rw [← UInt16.toNat_mod, divides]
    rfl
  have eights : 8 ∣ (8 * split).toNat := by
    rw [UInt16.toNat_mul]
    exact (Nat.dvd_mod_iff (by decide)).mpr (Nat.dvd_mul_right 8 _)
  exact Nat.le_of_dvd (toNat_pos_of_ne_zero some) (Nat.dvd_trans eights (Nat.dvd_of_mod_eq_zero remainder))

/-- The staging block of the product bounds the block. -/
theorem Accepted.area_le {descriptor : Descriptor} {kernel : Kernel} (accepted : Accepted descriptor kernel) :
    descriptor.block.n.toNat * descriptor.block.m.toNat ≤ 32768 := by
  have stride : descriptor.block.n.toNat ≤ (kernel.leading.get .c).toNat := accepted.rowLength_le .c
  have bytes : 0 < (descriptor.memory.get .c).size :=
    Precision.size_pos_of_checkPair (mapError_ok.mp (accepted.pair .c))
  have fits : (kernel.leading.get .c).toNat * descriptor.block.m.toNat * (descriptor.memory.get .c).size ≤ 32768 := by
    have fits := Nat.le_trans (Nat.le_max_right _ _) accepted.fits
    rw [Kernel.blockBytes, accepted.descriptor_eq] at fits
    exact fits
  calc descriptor.block.n.toNat * descriptor.block.m.toNat
      ≤ (kernel.leading.get .c).toNat * descriptor.block.m.toNat := Nat.mul_le_mul_right _ stride
    _ ≤ (kernel.leading.get .c).toNat * descriptor.block.m.toNat * (descriptor.memory.get .c).size :=
      Nat.le_mul_of_pos_right _ bytes
    _ ≤ 32768 := fits

/-- It bounds both of its sides. -/
theorem Accepted.block_lt {descriptor : Descriptor} {kernel : Kernel} (accepted : Accepted descriptor kernel) :
    descriptor.block.m.toNat < 8192 ∧ descriptor.block.n.toNat < 8192 := by
  obtain ⟨rows, columns, -⟩ := accepted.tiled
  have tall := eight_le_of_tiled accepted.block.1 rows
  have wide := eight_le_of_tiled accepted.block.2.1 columns
  refine ⟨?_, ?_⟩
  · have reach : 8 * descriptor.block.m.toNat ≤ 32768 := Nat.le_trans (Nat.mul_le_mul_right _ wide) accepted.area_le
    omega
  · have reach : descriptor.block.n.toNat * 8 ≤ 32768 := Nat.le_trans (Nat.mul_le_mul_left _ tall) accepted.area_le
    omega

/-- A split that wraps leaves nothing of a block that fits. -/
theorem tile_mul_split_of_pos {block split : UInt16} (some : split ≠ 0) (divides : block % (8 * split) = 0)
    (small : block.toNat < 8192) (positive : 0 < (block / split).toNat) :
    (block / split).toNat * split.toNat = block.toNat := by
  by_cases narrow : split.toNat < 8192
  · exact tile_mul_split narrow some divides
  · rw [UInt16.toNat_div, Nat.div_eq_of_lt (by omega)] at positive
    exact absurd positive (Nat.lt_irrefl 0)

theorem Accepted.divided {descriptor : Descriptor} {kernel : Kernel} (accepted : Accepted descriptor kernel) :
    Divided kernel := by
  obtain ⟨rows, columns, -⟩ := accepted.tiled
  obtain ⟨tall, wide⟩ := accepted.block_lt
  have same := accepted.descriptor_eq
  exact {
    tiles_m := by
      rw [accepted.registerM, same]
      exact tile_mul_split_of_pos accepted.splits.1 rows tall
    tiles_n := by
      rw [accepted.registerN, same]
      exact tile_mul_split_of_pos accepted.splits.2 columns wide
    block_m := same ▸ toNat_pos_of_ne_zero accepted.block.1
    block_n := same ▸ toNat_pos_of_ne_zero accepted.block.2.1
    block_k := same ▸ toNat_pos_of_ne_zero accepted.block.2.2
    depth := same ▸ accepted.depth_dvd
    rowLength := by rw [same]; exact accepted.rowLength_le
    memory := accepted.memory_le
    bias := same ▸ accepted.bias_cases }

/-- A count of pieces that wrapped is zero. -/
theorem ceilDiv_of_wrapped {extent size : UInt32} (wraps : 2 ^ 32 < extent.toNat + size.toNat) :
    (ceilDiv extent size).toNat = 0 := by
  have wrapped : (extent + size - 1).toNat < size.toNat := by
    have small := extent.toNat_lt
    have sizeSmall := size.toNat_lt
    rw [UInt32.toNat_sub, UInt32.toNat_add]
    simp only [UInt32.toNat_one]
    omega
  rw [ceilDiv, UInt32.toNat_div, Nat.div_eq_of_lt wrapped]

/-- Every piece begins inside the extent, also where the count wrapped. -/
theorem mul_lt_of_lt_ceilDiv {extent size : UInt32} (positive : 0 < size.toNat) {index : Nat}
    (below : index < (ceilDiv extent size).toNat) : index * size.toNat < extent.toNat := by
  by_cases fits : extent.toNat + size.toNat ≤ 2 ^ 32
  · rw [Launch.ceilDiv_toNat positive fits] at below
    exact mul_lt_of_lt_ceil positive below
  · rw [ceilDiv_of_wrapped (Nat.not_le.mp fits)] at below
    exact absurd below (Nat.not_lt_zero index)

/-- Where a tile lies and how many values it has. -/
def Tile.outline {α : Type} (tile : Tile α) : Nat × Nat × Nat :=
  (tile.row, tile.column, tile.values.length)

namespace Launch

variable {α : Type} {launch : Launch α}

/-- A launch that passed its checks: the kernel was made for the problem, and where the block at an edge has to end
    with a tile there are tiles. -/
structure Checked (launch : Launch α) : Prop where
  divided : Divided launch.kernel
  biasAxis : launch.kernel.descriptor.bias.axis = launch.problem.bias.axis
  m_pos : 0 < launch.m
  n_pos : 0 < launch.n
  k_pos : 0 < launch.k
  tileM_pos : launch.groupM ≤ launch.m → 0 < launch.tileM
  tileN_pos : launch.groupN ≤ launch.n → 0 < launch.tileN

theorem checked_of_checks {descriptor : Descriptor} (made : Kernel.ofDescriptor descriptor = .ok launch.kernel)
    (matching : launch.checkMatch = .ok ()) (tiled : launch.checkTiles = .ok ()) : launch.Checked := by
  dsimp only [checkMatch] at matching
  unfold checkTiles at tiled
  split at matching
  · cases matching
  · rename_i alike
    split at matching
    · cases matching
    · rename_i extents
      split at tiled
      · cases tiled
      · rename_i filled
        simp only [Bool.or_eq_true, decide_eq_true_eq, not_or, not_not, ne_eq] at alike extents
        simp only [Bool.or_eq_true, Bool.and_eq_true, decide_eq_true_eq, not_or, not_and] at filled
        have positive {extent : UInt32} (some : ¬ extent = 0) : 0 < extent.toNat := by
          apply Nat.pos_of_ne_zero
          intro zero
          exact some (UInt32.toNat_inj.mp zero)
        exact {
          divided := (accepted_of_ofDescriptor made).divided
          biasAxis := alike.2
          m_pos := positive extents.1.1
          n_pos := positive extents.1.2
          k_pos := positive extents.2
          tileM_pos := fun tall => Nat.pos_of_ne_zero (filled.1 tall)
          tileN_pos := fun wide => Nat.pos_of_ne_zero (filled.2 wide) }

variable (checked : launch.Checked)

include checked

theorem Checked.alongRows (tall : launch.groupM ≤ launch.m) {y : Nat} (inRows : y * launch.groupM < launch.m) :
    GroupAlong launch.m launch.groupM launch.tileM (y * launch.groupM) :=
  ⟨checked.tileM_pos tall, ⟨_, (checked.divided.tiles_m (checked.tileM_pos tall)).symm⟩, checked.divided.block_m,
    ⟨y, Nat.mul_comm _ _⟩, inRows⟩

theorem Checked.alongColumns (wide : launch.groupN ≤ launch.n) {x : Nat} (inColumns : x * launch.groupN < launch.n) :
    GroupAlong launch.n launch.groupN launch.tileN (x * launch.groupN) :=
  ⟨checked.tileN_pos wide, ⟨_, (checked.divided.tiles_n (checked.tileN_pos wide)).symm⟩, checked.divided.block_n,
    ⟨x, Nat.mul_comm _ _⟩, inColumns⟩

omit checked in
/-- Stores go straight to device memory only where a whole block lies before the edges. -/
theorem large_of_direct {x y : Nat} (direct : (launch.place x y).direct = true) :
    launch.groupM ≤ launch.m ∧ launch.groupN ≤ launch.n ∧
      y * launch.groupM < launch.m - launch.m % launch.groupM ∧
      x * launch.groupN < launch.n - launch.n % launch.groupN := by
  simp only [place, Bool.and_eq_true, decide_eq_true_eq] at direct
  exact ⟨direct.1.1.1.2, direct.1.1.2, direct.1.2, direct.2⟩

/-- Where the matrix is at least a block in both directions, its places are those of `Placed`. -/
theorem Checked.placed (tall : launch.groupM ≤ launch.m) (wide : launch.groupN ≤ launch.n) {x y : Nat}
    (inRows : y * launch.groupM < launch.m) (inColumns : x * launch.groupN < launch.n) :
    launch.Placed (launch.place x y) where
  rows := checked.alongRows tall inRows
  columns := checked.alongColumns wide inColumns
  shiftedRow := rfl
  shiftedColumn := rfl
  direct := large_of_direct

/-- Every group of the grid begins inside the product. -/
theorem Checked.of_mem_groups {group : Nat × Nat} (member : group ∈ launch.groups) :
    group.2 * launch.groupM < launch.m ∧ group.1 * launch.groupN < launch.n := by
  obtain ⟨x, y⟩ := group
  simp only [groups, Kernel.grid, List.mem_flatMap, List.mem_map, List.mem_range, Prod.mk.injEq] at member
  obtain ⟨_, inRows, _, inColumns, rfl, rfl⟩ := member
  have tall : 0 < launch.kernel.descriptor.block.m.toUInt32.toNat := checked.divided.block_m
  have wide : 0 < launch.kernel.descriptor.block.n.toUInt32.toNat := checked.divided.block_n
  exact ⟨mul_lt_of_lt_ceilDiv tall inRows, mul_lt_of_lt_ceilDiv wide inColumns⟩

omit checked

/-! ### No phase moves a tile -/

theorem outline_of_updateTile {rule : Nat → Nat → α → Except Failure α} {tile next : Tile α}
    (updated : launch.updateTile rule tile = .ok next) : next.outline = tile.outline := by
  obtain ⟨values, changed, equal⟩ := bind_ok_iff.mp updated
  cases equal
  have lengths := (forall₂_of_mapM changed).length_eq
  rw [List.length_zipIdx] at lengths
  rw [Tile.outline, Tile.outline, lengths]

theorem outlines_of_update {rule : Nat → Nat → α → Except Failure α} {tiles next : List (Tile α)}
    (updated : tiles.mapM (launch.updateTile rule) = .ok next) : next.map Tile.outline = tiles.map Tile.outline := by
  have related := forall₂_of_mapM updated
  clear updated
  induction related with
  | nil => rfl
  | cons first _ ih => rw [List.map_cons, List.map_cons, outline_of_updateTile first, ih]

theorem laid_of_outlines {place : Place} {tiles next : List (Tile α)}
    (same : next.map Tile.outline = tiles.map Tile.outline) (laid : ∀ tile ∈ tiles, tile.Laid launch place) :
    ∀ tile ∈ next, tile.Laid launch place := by
  intro tile member
  have found : tile.outline ∈ tiles.map Tile.outline := same ▸ List.mem_map_of_mem member
  obtain ⟨started, startedMember, equal⟩ := List.mem_map.mp found
  have lies := laid started startedMember
  simp only [Tile.outline, Prod.mk.injEq] at equal
  obtain ⟨row, column, length⟩ := equal
  exact ⟨length ▸ lies.length, row ▸ column ▸ lies.active⟩

variable [Register α] {place : Place} {tiles next : List (Tile α)}

theorem outlines_of_loadProduct (loaded : launch.loadProduct place tiles = .ok next) :
    next.map Tile.outline = tiles.map Tile.outline := by
  dsimp only [loadProduct] at loaded
  by_cases direct : place.direct = true
  · rw [if_pos direct] at loaded
    exact outlines_of_update loaded
  · rw [if_neg direct] at loaded
    obtain ⟨block, -, updated⟩ := bind_ok_iff.mp loaded
    exact outlines_of_update updated

theorem outlines_of_loadBias (loaded : launch.loadBias place tiles = .ok next) :
    next.map Tile.outline = tiles.map Tile.outline := by
  dsimp only [loadBias] at loaded
  split at loaded
  · cases loaded
    rfl
  · exact outlines_of_update loaded

/-- A loop over slices, whatever its factors are read from. -/
theorem outlines_of_slices {left right : Nat → Nat → Except Failure α} {count : Nat}
    (summed : (List.range count).foldlM (fun held step =>
      held.mapM (launch.multiplyStep left right (8 * step))) tiles = .ok next) :
    next.map Tile.outline = tiles.map Tile.outline := by
  refine foldlM_keeps (fun held => held.map Tile.outline = tiles.map Tile.outline) ?_ rfl summed
  intro step _ held later same stepped
  exact (outlines_of_update stepped).trans same

theorem outlines_of_multiplyStaged (summed : launch.multiplyStaged place tiles = .ok next) :
    next.map Tile.outline = tiles.map Tile.outline := by
  obtain ⟨⟨result, stage⟩, reached, equal⟩ := bind_ok_iff.mp summed
  cases equal
  refine foldlM_keeps (fun held : List (Tile α) × Stage α => held.1.map Tile.outline = tiles.map Tile.outline) ?_ rfl
    reached
  rintro index _ held ⟨later, _⟩ same stepped
  obtain ⟨stage, -, rest⟩ := bind_ok_iff.mp stepped
  obtain ⟨slices, multiplied, equal⟩ := bind_ok_iff.mp rest
  cases equal
  exact (outlines_of_slices multiplied).trans same

/-- The tiles of a threadgroup when it comes to its stores. -/
def summedTiles (launch : Launch α) (place : Place) : Except Failure (List (Tile α)) := do
  let started := launch.tiles place
  let loaded ← if launch.problem.loadPreviousC then launch.loadProduct place started else pure started
  let biased ← launch.loadBias place loaded
  let direct ← launch.multiplyDirect place biased
  launch.multiplyStaged place direct

/-- A threadgroup sums without looking at the product of the others, and then stores. -/
theorem runGroup_eq (launch : Launch α) (product : Array α) (x y : Nat) :
    launch.runGroup product x y = launch.summedTiles (launch.place x y) >>= fun tiles =>
      launch.storeProduct (launch.place x y) tiles product := by
  by_cases load : launch.problem.loadPreviousC = true
  · simp only [runGroup, summedTiles, load, if_true, bind_assoc]
  · simp only [runGroup, summedTiles, load, if_false, bind_assoc, Bool.false_eq_true]

theorem outlines_of_summedTiles (summed : launch.summedTiles place = .ok tiles) :
    tiles.map Tile.outline = (launch.tiles place).map Tile.outline := by
  have after : ∀ loaded : List (Tile α), (do
      let biased ← launch.loadBias place loaded
      let direct ← launch.multiplyDirect place biased
      launch.multiplyStaged place direct) = .ok tiles → tiles.map Tile.outline = loaded.map Tile.outline := by
    intro loaded rest
    obtain ⟨biased, bias, rest⟩ := bind_ok_iff.mp rest
    obtain ⟨direct, multiplied, staged⟩ := bind_ok_iff.mp rest
    exact (outlines_of_multiplyStaged staged).trans
      ((outlines_of_slices multiplied).trans (outlines_of_loadBias bias))
  dsimp only [summedTiles] at summed
  split at summed
  · obtain ⟨loaded, load, rest⟩ := bind_ok_iff.mp summed
    exact (after loaded rest).trans (outlines_of_loadProduct load)
  · exact after _ summed

/-- The tiles of a threadgroup lie in its block when it comes to its stores. -/
theorem Checked.laid (checked : launch.Checked) (summed : launch.summedTiles place = .ok tiles) :
    ∀ tile ∈ tiles, tile.Laid launch place := by
  apply laid_of_outlines (outlines_of_summedTiles summed)
  intro tile member
  exact (tiles_laid checked.divided.tiles_m checked.divided.tiles_n member).1

end Launch

end KernelForge.Gemm
