import KernelForge.Proofs.Cell
import KernelForge.Gemm.Emulation

/-!
Blocks along one axis of the product. Rows and columns are laid out alike: the axis is cut into groups, a
group into tiles, and the group at the edge moves back until its last tile ends with the matrix. Three facts
carry the schedule: where the axis is at least a group long, a tile that runs never leaves the matrix; every
place that a group owns lies in one of its tiles that run; and only a group at the edge moves at all.
-/

namespace KernelForge.Gemm

/-- Where a group works after it moved back from the edge. -/
def shiftedStart (extent group tile start : Nat) : Nat :=
  start - (if extent - extent % group ≤ start then edgeShift extent group tile else 0)

/-- A group of tiles that begins inside the extent. -/
structure GroupAlong (extent group tile start : Nat) : Prop where
  tile_pos : 0 < tile
  divides : tile ∣ group
  group_pos : 0 < group
  aligned : group ∣ start
  begins : start < extent

/-- An offset in a group belongs to a tile that runs: its tile begins before the edge. -/
def ActiveAlong (extent group tile start offset : Nat) : Prop :=
  offset < group ∧ start + offset / tile * tile < extent

/-- The places of a tile that begins before the edge. -/
theorem activeAlong_of_tile {extent group tile splits start index rest : Nat} (tiles : tile * splits = group)
    (inGroup : index < splits) (inTile : rest < tile) (begins : start + index * tile < extent) :
    ActiveAlong extent group tile start (index * tile + rest) := by
  obtain ⟨below, quotient, -⟩ := rectangle_index inGroup inTile
  unfold ActiveAlong
  rw [quotient]
  exact ⟨by rwa [← tiles, Nat.mul_comm tile], begins⟩

theorem shiftedStart_le (extent group tile start : Nat) :
    shiftedStart extent group tile start ≤ start :=
  Nat.sub_le _ _

/-- An axis shorter than a group moves nothing. -/
theorem shiftedStart_of_short {extent group tile start : Nat} (short : extent < group) :
    shiftedStart extent group tile start = start := by
  simp [shiftedStart, edgeShift, short]

/-- A group that begins before the last whole one ends moves nothing. -/
theorem shiftedStart_of_lt_edge {extent group tile start : Nat} (before : start < extent - extent % group) :
    shiftedStart extent group tile start = start := by
  simp [shiftedStart, Nat.not_le.mpr before]

namespace GroupAlong

variable {extent group tile start : Nat}

/-- A group that begins before the edge ends before it. -/
theorem end_le_edge (along : GroupAlong extent group tile start) (before : start < extent - extent % group) :
    start + group ≤ extent - extent % group := by
  obtain ⟨index, rfl⟩ := along.aligned
  have edge : extent - extent % group = group * (extent / group) := by
    have := Nat.div_add_mod extent group
    omega
  rw [edge] at before ⊢
  have below : index < extent / group := Nat.lt_of_mul_lt_mul_left before
  calc group * index + group = group * (index + 1) := (Nat.mul_succ group index).symm
    _ ≤ group * (extent / group) := Nat.mul_le_mul_left group below

/-- The group at the edge begins where the last whole group ends. -/
theorem start_eq_edge (along : GroupAlong extent group tile start) (edge : extent - extent % group ≤ start) :
    start = extent - extent % group := by
  obtain ⟨index, rfl⟩ := along.aligned
  have split := Nat.div_add_mod extent group
  have rest := Nat.mod_lt extent along.group_pos
  have reach : group * (extent / group) ≤ group * index := by omega
  have below : group * index < group * (extent / group + 1) := by
    rw [Nat.mul_succ]
    have := along.begins
    omega
  have equal : index = extent / group := by
    have upper := Nat.lt_of_mul_lt_mul_left below
    have lower := Nat.le_of_mul_le_mul_left reach along.group_pos
    omega
  rw [equal]
  omega

/-- The shift of the group at the edge fills the last tile up to the edge. -/
theorem edgeShift_spec (along : GroupAlong extent group tile start) (long : group ≤ extent) :
    edgeShift extent group tile < tile ∧ tile ∣ extent + edgeShift extent group tile := by
  have rest := Nat.mod_lt extent along.tile_pos
  have split := Nat.div_add_mod extent tile
  simp only [edgeShift, Nat.not_lt.mpr long, if_false]
  by_cases exact : extent % tile = 0
  · simp only [exact, if_true, Nat.sub_self, Nat.add_zero]
    exact ⟨along.tile_pos, Nat.dvd_of_mod_eq_zero exact⟩
  · simp only [exact, if_false]
    refine ⟨by omega, extent / tile + 1, ?_⟩
    rw [Nat.mul_succ]
    omega

/-- The group at the edge of a long axis reaches back at most as far as it has room. -/
theorem edgeShift_le_start (along : GroupAlong extent group tile start) (long : group ≤ extent)
    (edge : extent - extent % group ≤ start) : edgeShift extent group tile ≤ start := by
  have small := (along.edgeShift_spec long).1
  have fits : tile ≤ group := Nat.le_of_dvd along.group_pos along.divides
  have rest := Nat.mod_lt extent along.group_pos
  have split := Nat.div_add_mod extent group
  have whole : group ≤ group * (extent / group) :=
    Nat.le_mul_of_pos_right group (Nat.div_pos long along.group_pos)
  omega

/-- Where an axis is at least a group long, no tile that runs leaves the matrix. -/
theorem active_inside (along : GroupAlong extent group tile start) (long : group ≤ extent) {offset : Nat}
    (active : ActiveAlong extent group tile start offset) :
    shiftedStart extent group tile start + offset < extent := by
  by_cases edge : extent - extent % group ≤ start
  · obtain ⟨small, total, filled⟩ := along.edgeShift_spec long
    have room := along.edgeShift_le_start long edge
    obtain ⟨tiles, begin_eq⟩ := Nat.dvd_trans along.divides along.aligned
    have split := Nat.div_add_mod offset tile
    have rest := Nat.mod_lt offset along.tile_pos
    -- Counted in tiles, the tile of the offset ends no later than the filled up extent.
    have whole : tile * (tiles + offset / tile) < tile * total := by
      rw [Nat.mul_add, ← begin_eq, Nat.mul_comm tile (offset / tile), ← filled]
      exact Nat.lt_of_lt_of_le active.2 (Nat.le_add_right _ _)
    have last : tile * (tiles + offset / tile + 1) ≤ tile * total :=
      Nat.mul_le_mul_left tile (Nat.lt_of_mul_lt_mul_left whole)
    rw [Nat.mul_succ, Nat.mul_add] at last
    simp only [shiftedStart, edge, if_true]
    omega
  · rw [shiftedStart_of_lt_edge (Nat.not_le.mp edge)]
    have fits := along.end_le_edge (Nat.not_le.mp edge)
    have inGroup := active.1
    omega

/-- Every place that a group owns lies in a tile of it that runs, also after the group moved. -/
theorem own_active (along : GroupAlong extent group tile start) {offset : Nat} (inGroup : offset < group)
    (inside : start + offset < extent) :
    ActiveAlong extent group tile start (start - shiftedStart extent group tile start + offset) ∧
      shiftedStart extent group tile start + (start - shiftedStart extent group tile start + offset) =
        start + offset := by
  have lower := shiftedStart_le extent group tile start
  refine ⟨?_, by omega⟩
  by_cases same : shiftedStart extent group tile start = start
  · rw [same, Nat.sub_self, Nat.zero_add]
    have below := Nat.div_mul_le_self offset tile
    exact ⟨inGroup, by omega⟩
  · have edge : extent - extent % group ≤ start :=
      Nat.not_lt.mp fun before => same (shiftedStart_of_lt_edge before)
    have long : group ≤ extent := Nat.not_lt.mp fun short => same (shiftedStart_of_short short)
    obtain ⟨small, total, filled⟩ := along.edgeShift_spec long
    have room := along.edgeShift_le_start long edge
    have moved : start - shiftedStart extent group tile start = edgeShift extent group tile := by
      simp only [shiftedStart, edge, if_true]
      omega
    rw [moved]
    generalize edgeShift extent group tile = shift at *
    obtain ⟨tiles, begin_eq⟩ := Nat.dvd_trans along.divides along.aligned
    obtain ⟨perGroup, group_eq⟩ := along.divides
    have at_edge := along.start_eq_edge edge
    have remainder := Nat.mod_lt extent along.group_pos
    -- The filled up extent ends inside the group, because both end with a tile.
    have inTiles : tile * total < tile * (tiles + perGroup + 1) := by
      rw [Nat.mul_succ, Nat.mul_add, ← begin_eq, ← group_eq, ← filled]
      omega
    have ends : tile * total ≤ tile * (tiles + perGroup) :=
      Nat.mul_le_mul_left tile (Nat.le_of_lt_succ (Nat.lt_of_mul_lt_mul_left inTiles))
    rw [Nat.mul_add, ← begin_eq, ← group_eq, ← filled] at ends
    refine ⟨by omega, ?_⟩
    have split := Nat.div_mul_le_self (shift + offset) tile
    have whole : tile * (tiles + (shift + offset) / tile) < tile * total := by
      rw [Nat.mul_add, ← begin_eq, Nat.mul_comm tile ((shift + offset) / tile), ← filled]
      omega
    have last : tile * (tiles + (shift + offset) / tile + 1) ≤ tile * total :=
      Nat.mul_le_mul_left tile (Nat.lt_of_mul_lt_mul_left whole)
    rw [Nat.mul_succ, Nat.mul_add, ← begin_eq, Nat.mul_comm tile ((shift + offset) / tile), ← filled] at last
    omega

end GroupAlong

end KernelForge.Gemm
