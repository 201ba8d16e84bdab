import Mathlib.Data.List.Perm.Basic
import KernelForge.Proofs.Gemm.Rounded
import KernelForge.Proofs.Gemm.Stores

/-!
The order of the threadgroups. Nothing that a group computes depends on what the others store, so the order shows only
in cells that two groups store to. There are none as long as the rows of the product lie behind each other in its
buffer. The stride of the product comes from the caller, and nothing checks it: where it is shorter than a row and the
product has several rows and groups, there always is such a cell, and two orders can end in different products.
-/

namespace KernelForge

variable {α : Type}

/-- A store to a cell that a list of stores leaves alone can be made before or after them. -/
theorem applied_setIfInBounds {stores : List (Nat × α)} {cell : Nat} (apart : ∀ store ∈ stores, store.1 ≠ cell)
    (value : α) (buffer : Array α) :
    applied stores (buffer.setIfInBounds cell value) = (applied stores buffer).setIfInBounds cell value := by
  induction stores generalizing buffer with
  | nil => rfl
  | cons store rest ih =>
    have different : store.1 ≠ cell := apart store (by simp)
    change applied rest ((buffer.setIfInBounds cell value).setIfInBounds store.1 store.2) = _
    rw [Array.setIfInBounds_comm _ _ different.symm]
    exact ih (fun other member => apart other (by simp [member])) _

/-- Stores to different cells commute. -/
theorem applied_comm {stores others : List (Nat × α)}
    (apart : ∀ store ∈ stores, ∀ other ∈ others, store.1 ≠ other.1) (buffer : Array α) :
    applied stores (applied others buffer) = applied others (applied stores buffer) := by
  induction stores generalizing buffer with
  | nil => rfl
  | cons store rest ih =>
    have outside : ∀ other ∈ others, other.1 ≠ store.1 := fun other member =>
      (apart store (by simp) other member).symm
    change applied rest ((applied others buffer).setIfInBounds store.1 store.2) = _
    rw [← applied_setIfInBounds outside]
    exact ih (fun later member => apart later (by simp [member])) _

end KernelForge

namespace KernelForge.Gemm.Launch

variable {α : Type} [Register α] {launch : Launch α}

/-- A group of the grid stores to a cell of the product. -/
def StoresTo (launch : Launch α) (group : Nat × Nat) (cell : Nat) : Prop :=
  ∃ stores, launch.groupStores group.1 group.2 = .ok stores ∧ ∃ store ∈ stores, store.1 = cell

/-- Groups that store to different cells can run in any order. -/
theorem runGroups_of_perm {order groups : List (Nat × Nat)} {product next : Array α}
    (ran : launch.runGroups groups product = .ok next)
    (apart : ∀ group ∈ groups, ∀ other ∈ groups, ∀ cell, launch.StoresTo group cell → launch.StoresTo other cell →
      group = other)
    (perm : order.Perm groups) : launch.runGroups order product = .ok next := by
  obtain ⟨each, equal⟩ := runGroups_ok_iff.mp ran
  refine runGroups_ok_iff.mpr ⟨fun group member => each group (perm.mem_iff.mp member), ?_⟩
  rw [equal]
  refine perm.symm.foldl_eq' ?_ product
  intro group member other otherMember held
  by_cases same : group = other
  · rw [same]
  · apply applied_comm
    intro store stored later laterStored cell
    have stores : launch.StoresTo other store.1 := ⟨_, (each other otherMember).1, store, stored, rfl⟩
    have storesLater : launch.StoresTo group store.1 := ⟨_, (each group member).1, later, laterStored, cell.symm⟩
    exact same (apart group member other otherMember _ storesLater stores)

/-! ### Cells that two groups own -/

omit [Register α] in
/-- The group that an element belongs to is one of the grid, unless the grid wrapped. -/
theorem Checked.group_mem (checked : launch.Checked) (some : launch.groups ≠ []) {row column : Nat}
    (inRows : row < launch.m) (inColumns : column < launch.n) :
    (column / launch.groupN, row / launch.groupM) ∈ launch.groups := by
  have tall : 0 < launch.groupM := checked.divided.block_m
  have wide : 0 < launch.groupN := checked.divided.block_n
  have fitsM : launch.m + launch.groupM ≤ 2 ^ 32 := by
    apply Nat.not_lt.mp
    intro wraps
    have none : (ceilDiv launch.problem.extents.m launch.kernel.descriptor.block.m.toUInt32).toNat = 0 :=
      ceilDiv_of_wrapped wraps
    exact some (by simp [groups, Kernel.grid, none])
  have fitsN : launch.n + launch.groupN ≤ 2 ^ 32 := by
    apply Nat.not_lt.mp
    intro wraps
    have none : (ceilDiv launch.problem.extents.n launch.kernel.descriptor.block.n.toUInt32).toNat = 0 :=
      ceilDiv_of_wrapped wraps
    exact some (by simp [groups, Kernel.grid, none])
  rw [mem_groups_iff tall wide fitsM fitsN]
  exact ⟨div_lt_stepCount wide inColumns, div_lt_stepCount tall inRows⟩

/-- The rows of the product lie behind each other in its buffer, or there is only one of them, or only one group. -/
def Separate (launch : Launch α) : Prop :=
  launch.n ≤ launch.problem.strides.c.toNat ∨ launch.m = 1 ∨ launch.groups.length ≤ 1

omit [Register α] in
theorem eq_of_owned (separate : launch.Separate) {group other : Nat × Nat} (member : group ∈ launch.groups)
    (otherMember : other ∈ launch.groups) {cell : Nat} (owned : launch.Owned group.1 group.2 cell)
    (otherOwned : launch.Owned other.1 other.2 cell) : group = other := by
  obtain ⟨x, y⟩ := group
  obtain ⟨x', y'⟩ := other
  obtain ⟨row, inRows, column, inColumns, rfl, rfl, here⟩ := owned
  obtain ⟨row', inRows', column', inColumns', rfl, rfl, there⟩ := otherOwned
  have equal : row * launch.problem.strides.c.toNat + column = row' * launch.problem.strides.c.toNat + column' :=
    here.symm.trans there
  rcases separate with fits | single | few
  · obtain ⟨rfl, rfl⟩ := rowMajor_injective (Nat.lt_of_lt_of_le inColumns fits) (Nat.lt_of_lt_of_le inColumns' fits)
      equal
    rfl
  · have first : row = 0 := by omega
    have second : row' = 0 := by omega
    subst first second
    rw [Nat.add_left_cancel equal]
  · rcases listed : launch.groups with _ | ⟨only, _ | ⟨second, rest⟩⟩
    · rw [listed] at member
      cases member
    · rw [listed, List.mem_singleton] at member otherMember
      rw [member, otherMember]
    · rw [listed] at few
      simp at few

omit [Register α] in
/-- A stride shorter than the rows was given, so it is not zero. -/
theorem stride_pos (short : launch.problem.strides.c.toNat < launch.n) : 0 < launch.problem.strides.c.toNat := by
  unfold Problem.strides at short ⊢
  dsimp only at short ⊢
  split
  · rename_i given
    apply Nat.pos_of_ne_zero
    intro zero
    exact given (UInt32.toNat_inj.mp zero)
  · rename_i packed
    rw [if_neg packed] at short
    exact absurd short (Nat.lt_irrefl _)

omit [Register α] in
/-- Several groups lie beside or below each other. -/
theorem Checked.large_of_groups (checked : launch.Checked) (several : 1 < launch.groups.length) :
    launch.groupN < launch.n ∨ launch.groupM < launch.m := by
  apply Classical.byContradiction
  intro small
  have tall : 0 < launch.kernel.descriptor.block.m.toUInt32.toNat := checked.divided.block_m
  have wide : 0 < launch.kernel.descriptor.block.n.toUInt32.toNat := checked.divided.block_n
  have rows : (ceilDiv launch.problem.extents.m launch.kernel.descriptor.block.m.toUInt32).toNat ≤ 1 := by
    apply Nat.not_lt.mp
    intro more
    have begins : 1 * launch.groupM < launch.m := mul_lt_of_lt_ceilDiv tall more
    omega
  have columns : (ceilDiv launch.problem.extents.n launch.kernel.descriptor.block.n.toUInt32).toNat ≤ 1 := by
    apply Nat.not_lt.mp
    intro more
    have begins : 1 * launch.groupN < launch.n := mul_lt_of_lt_ceilDiv wide more
    omega
  have count := Nat.mul_le_mul rows columns
  simp only [groups, Kernel.grid, List.length_flatMap, List.length_map, List.length_range, List.map_const',
    List.sum_replicate, smul_eq_mul] at several
  omega

omit [Register α] in
/-- Rows that overlap in the buffer give two groups a cell in common. -/
theorem Checked.exists_shared (checked : launch.Checked) (overlaps : ¬ launch.Separate) :
    ∃ group ∈ launch.groups, ∃ other ∈ launch.groups, group ≠ other ∧
      ∃ cell, launch.Owned group.1 group.2 cell ∧ launch.Owned other.1 other.2 cell := by
  simp only [Separate, not_or, Nat.not_le] at overlaps
  obtain ⟨short, rows, several⟩ := overlaps
  have positive := stride_pos short
  have tall : 0 < launch.groupM := checked.divided.block_m
  have wide : 0 < launch.groupN := checked.divided.block_n
  have m_pos := checked.m_pos
  have some : launch.groups ≠ [] := List.ne_nil_of_length_pos (by omega)
  -- Two elements of different groups in one cell.
  have elements : ∃ row column row' column', row < launch.m ∧ column < launch.n ∧ row' < launch.m ∧
      column' < launch.n ∧ launch.problem.position .c row column = launch.problem.position .c row' column' ∧
      (column / launch.groupN ≠ column' / launch.groupN ∨ row / launch.groupM ≠ row' / launch.groupM) := by
    rcases checked.large_of_groups several with broad | high
    · -- A row runs into the next one behind the end of the first group.
      have second := Nat.div_pos (Nat.le_max_right launch.problem.strides.c.toNat launch.groupN) wide
      have first : (max launch.problem.strides.c.toNat launch.groupN - launch.problem.strides.c.toNat) /
          launch.groupN = 0 := Nat.div_eq_of_lt (by omega)
      refine ⟨0, max launch.problem.strides.c.toNat launch.groupN, 1,
        max launch.problem.strides.c.toNat launch.groupN - launch.problem.strides.c.toNat,
        by omega, by omega, by omega, by omega, ?_, .inl (by omega)⟩
      change 0 * launch.problem.strides.c.toNat + _ = 1 * launch.problem.strides.c.toNat + _
      omega
    · -- The last row of the first group runs into the first row of the group below.
      have first : (launch.groupM - 1) / launch.groupM = 0 := Nat.div_eq_of_lt (by omega)
      have second := Nat.div_self tall
      refine ⟨launch.groupM - 1, launch.problem.strides.c.toNat, launch.groupM, 0,
        by omega, short, high, by omega, ?_, .inr (by omega)⟩
      change (launch.groupM - 1) * launch.problem.strides.c.toNat + launch.problem.strides.c.toNat =
        launch.groupM * launch.problem.strides.c.toNat + 0
      rw [← Nat.succ_mul, Nat.succ_eq_add_one, Nat.sub_add_cancel tall, Nat.add_zero]
  obtain ⟨row, column, row', column', inRows, inColumns, inRows', inColumns', shared, apart⟩ := elements
  refine ⟨_, checked.group_mem some inRows inColumns, _, checked.group_mem some inRows' inColumns', ?_, _,
    ⟨row, inRows, column, inColumns, rfl, rfl, rfl⟩, ⟨row', inRows', column', inColumns', rfl, rfl, shared⟩⟩
  intro equal
  rcases apart with columns | rows
  · exact columns (congrArg Prod.fst equal)
  · exact rows (congrArg Prod.snd equal)

/-! ### Any order -/

/-- The threadgroups of a run store to different cells exactly if the rows of the product do not overlap in its
    buffer, up to products of one row and grids of one group; then they can run in any order. -/
theorem run_of_perm {descriptor : Descriptor} {product : Array α}
    (made : Kernel.ofDescriptor descriptor = .ok launch.kernel) (ran : launch.run = .ok product) :
    (launch.Separate ↔ ∀ group ∈ launch.groups, ∀ other ∈ launch.groups, ∀ cell,
      launch.StoresTo group cell → launch.StoresTo other cell → group = other) ∧
    (launch.Separate → ∀ order : List (Nat × Nat), order.Perm launch.groups →
      launch.runGroups order launch.buffers.c = .ok product) := by
  obtain ⟨_, matching, ran⟩ := bind_ok_iff.mp ran
  obtain ⟨_, -, ran⟩ := bind_ok_iff.mp ran
  obtain ⟨_, tiled, ran⟩ := bind_ok_iff.mp ran
  obtain ⟨_, -, ran⟩ := bind_ok_iff.mp ran
  have checked := checked_of_checks made matching tiled
  have storesTo : ∀ group ∈ launch.groups, ∀ cell,
      launch.StoresTo group cell ↔ launch.Owned group.1 group.2 cell := by
    intro group member cell
    obtain ⟨inRows, inColumns⟩ := checked.of_mem_groups member
    have listed := ((runGroups_ok_iff.mp ran).1 group member).1
    rw [← checked.mem_groupStores_iff inRows inColumns listed]
    constructor
    · rintro ⟨stores, found, here⟩
      rw [storesOf_eq found]
      exact here
    · exact fun here => ⟨_, listed, here⟩
  have apart : launch.Separate → ∀ group ∈ launch.groups, ∀ other ∈ launch.groups, ∀ cell,
      launch.StoresTo group cell → launch.StoresTo other cell → group = other := by
    intro separate group member other otherMember cell stores otherStores
    rw [storesTo group member] at stores
    rw [storesTo other otherMember] at otherStores
    exact eq_of_owned separate member otherMember stores otherStores
  refine ⟨⟨apart, ?_⟩, fun separate order => runGroups_of_perm ran (apart separate)⟩
  intro distinct
  apply Classical.byContradiction
  intro overlaps
  obtain ⟨group, member, other, otherMember, different, cell, owned, otherOwned⟩ := checked.exists_shared overlaps
  rw [← storesTo group member] at owned
  rw [← storesTo other otherMember] at otherOwned
  exact different (distinct group member other otherMember cell owned otherOwned)

/-- Four groups of the smallest block, the last one of a single element. -/
def oddLaunch : Launch Float32 :=
  ⟨smallKernel, oddProblem, Verification.gemmBuffers oddProblem (Array.replicate 81 1) (Array.replicate 81 2)
    (Array.replicate 81 1) (Array.replicate 9 1)⟩

theorem oddLaunch_admissible : oddLaunch.Admissible where
  made := ⟨smallDescriptor, by decide +kernel⟩
  splits := by decide
  memory := rfl
  transpose := rfl
  biasAxis := rfl
  extents := by decide
  grid := by decide
  stride := by decide
  matrices := by rintro (_ | _ | _) <;> decide
  bias := by decide

theorem run_of_perm_odd : ∃ product, oddLaunch.run = .ok product ∧ oddLaunch.Separate ∧
    oddLaunch.runGroups [(1, 1), (0, 1), (1, 0), (0, 0)] oddLaunch.buffers.c = .ok product := by
  obtain ⟨product, ran, -⟩ := run_written oddLaunch_admissible
  have separate : oddLaunch.Separate := .inl oddLaunch_admissible.stride
  obtain ⟨-, orders⟩ := run_of_perm (show Kernel.ofDescriptor smallDescriptor = .ok oddLaunch.kernel by decide +kernel) ran
  exact ⟨product, ran, separate, orders separate _ (by decide +kernel)⟩

/-- A kernel with the smallest block, in single precision throughout. -/
def plainKernel : Kernel where
  descriptor := {
    block := ⟨8, 8, 8⟩
    memory := ⟨.fp32, .fp32, .fp32⟩
    register := ⟨.fp32, .fp32, .fp32⟩
    splits := ⟨1, 1⟩ }
  registerM := 8
  registerN := 8
  leading := ⟨8, 8, 8⟩
  threadgroupMemory := 512
  threadgroupSize := 32

/-- Two rows of nine elements whose product has a stride of one: the rows are of ones and of twos. -/
def overlappingLaunch : Launch Float32 :=
  let problem : Problem := {
    extents := ⟨2, 9, 1⟩
    memory := ⟨.fp32, .fp32, .fp32⟩
    leading := ⟨0, 0, 1⟩ }
  ⟨plainKernel, problem, Verification.gemmBuffers problem #[1, 2] (Array.replicate 9 1) (Array.replicate 10 0) #[]⟩

/-- Rows that overlap are accepted, and two orders of their two groups end in different products. -/
theorem run_ne_reversed : ∃ product later,
    Kernel.ofDescriptor plainKernel.descriptor = .ok plainKernel ∧
    overlappingLaunch.groups = [(0, 0), (1, 0)] ∧ overlappingLaunch.run = .ok product ∧
    overlappingLaunch.runGroups [(1, 0), (0, 0)] overlappingLaunch.buffers.c = .ok later ∧
    product[8]? = some 1 ∧ later[8]? = some 2 := by
  have first : (overlappingLaunch.run.toOption.bind (·[8]?)) = some 1 := by decide +kernel
  have second : ((overlappingLaunch.runGroups [(1, 0), (0, 0)] overlappingLaunch.buffers.c).toOption.bind
    (·[8]?)) = some 2 := by decide +kernel
  cases ran : overlappingLaunch.run with
  | error failure =>
    rw [ran] at first
    cases first
  | ok product =>
    cases reversed : overlappingLaunch.runGroups [(1, 0), (0, 0)] overlappingLaunch.buffers.c with
    | error failure =>
      rw [reversed] at second
      cases second
    | ok later =>
      rw [ran] at first
      rw [reversed] at second
      exact ⟨product, later, by decide +kernel, by decide +kernel, rfl, rfl, first, second⟩

end KernelForge.Gemm.Launch
