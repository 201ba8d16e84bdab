import KernelForge.Proofs.Gemm.Heuristic
import KernelForge.Proofs.Gemm.Outline
import Mathlib.Algebra.Order.Floor.Div

/-!
The occupancy rule of the older generations: a product takes the small block as long as it makes no more threadgroups
than the cores hold at once. The rule is meant over unbounded numbers. It is computed in words: a count of groups along
an extent becomes zero where extent and edge together pass 2³², and both products are taken modulo 2⁶⁴ as signed
numbers. So it is followed exactly as long as nothing of this wraps, and where it wraps a larger product can get the
small block back.
-/

namespace KernelForge.Gemm

open Tuning (Tables)

/-- The core counts and the parameters of the occupancy rule that validated tables have. -/
structure PositiveOccupancy (tables : Tables) : Prop where
  mac : 0 < tables.coreCounts.mac
  mobile : 0 < tables.coreCounts.mobile
  mobileApple9 : 0 < tables.coreCounts.mobileApple9
  largeGroups : 0 < tables.gemm.largeGroupsPerCore
  smallGroups : 0 < tables.gemm.smallGroupsPerCore
  edge : tables.gemm.occupancyBlock ≠ 0

theorem positiveOccupancy_of_validate {tables : Tables} (valid : tables.validate = .ok ()) :
    PositiveOccupancy tables := by
  unfold Tables.validate at valid
  split at valid
  · rename_i silent
    simp only [Tables.findings, List.isEmpty_iff, List.append_eq_nil_iff] at silent
    obtain ⟨⟨⟨⟨⟨⟨⟨⟨⟨counts, occupancy⟩, -⟩, -⟩, -⟩, -⟩, -⟩, -⟩, -⟩, -⟩ := silent
    split at counts
    · cases counts
    · rename_i counted
      split at occupancy
      · cases occupancy
      · rename_i occupied
        simp only [Bool.or_eq_true, decide_eq_true_eq, not_or, Int64.not_le] at counted occupied
        obtain ⟨⟨mac, mobile⟩, mobileApple9⟩ := counted
        obtain ⟨⟨largeGroups, smallGroups⟩, edge⟩ := occupied
        exact ⟨mac, mobile, mobileApple9, largeGroups, smallGroups, edge⟩
  · cases valid

theorem PositiveOccupancy.cores {tables : Tables} (positive : PositiveOccupancy tables) (device : Device) :
    0 < tables.cores device := by
  unfold Tables.cores
  split
  · assumption
  · split
    · exact positive.mac
    · split
      · exact positive.mobileApple9
      · exact positive.mobile

namespace Problem

/-- The number of threadgroups along an extent, as it is computed: none where extent and edge pass 2³². -/
def countAlong (extent edge : UInt32) : Nat :=
  if extent.toNat + edge.toNat ≤ 2 ^ 32 then extent.toNat ⌈/⌉ edge.toNat else 0

theorem ceilDiv_toNat_eq {extent edge : UInt32} (some : edge ≠ 0) :
    (Gemm.ceilDiv extent edge).toNat = countAlong extent edge := by
  have positive : 0 < edge.toNat := Nat.pos_of_ne_zero fun zero => some (UInt32.toNat_inj.mp zero)
  unfold countAlong
  split
  · next fits =>
    rw [Launch.ceilDiv_toNat positive fits, Nat.ceilDiv_eq_add_pred_div]
    rfl
  · next wraps => exact ceilDiv_of_wrapped (Nat.not_le.mp wraps)

/-- The threadgroups that the occupancy rule counts, over unbounded numbers. -/
def exactGroups (problem : Problem) (edge : UInt32) : Int :=
  (problem.extents.m.toNat ⌈/⌉ edge.toNat : Nat) * (problem.extents.n.toNat ⌈/⌉ edge.toNat : Nat) *
    max problem.batch.toInt 1

/-- The threadgroups that the cores of a device hold at once, over unbounded numbers. -/
def capacity (problem : Problem) (device : Device) (tables : Tables) : Int :=
  (tables.cores device).toInt *
    (if problem.isLarge then tables.gemm.largeGroupsPerCore else tables.gemm.smallGroupsPerCore).toInt

/-- Nothing that the occupancy rule computes wraps. -/
structure Countable (problem : Problem) (device : Device) (tables : Tables) : Prop where
  rows : problem.extents.m.toNat + tables.gemm.occupancyBlock.toNat ≤ 2 ^ 32
  columns : problem.extents.n.toNat + tables.gemm.occupancyBlock.toNat ≤ 2 ^ 32
  groups : problem.exactGroups tables.gemm.occupancyBlock < 2 ^ 63
  capacity : problem.capacity device tables < 2 ^ 63

variable {problem : Problem} {device : Device} {tables : Tables}

theorem toInt_groups (problem : Problem) {edge : UInt32} (some : edge ≠ 0) :
    (problem.groups edge).toInt =
      (countAlong problem.extents.m edge * countAlong problem.extents.n edge * max problem.batch.toInt 1).bmod
        (2 ^ 64) := by
  have count (extent : UInt32) : (Int64.ofNat (Gemm.ceilDiv extent edge).toNat).toInt = countAlong extent edge := by
    rw [Int64.toInt_ofNat_of_lt (Nat.lt_trans (Gemm.ceilDiv extent edge).toNat_lt (by decide)), ceilDiv_toNat_eq some]
  have batches : (max problem.batch 1).toInt = max problem.batch.toInt 1 := by
    change (if problem.batch ≤ 1 then 1 else problem.batch).toInt = _
    rw [max_def, apply_ite Int64.toInt, Int64.toInt_one]
    simp only [Int64.le_iff_toInt_le, Int64.toInt_one]
  rw [groups, Int64.toInt_mul, Int64.toInt_mul, count, count, batches, Int.bmod_mul_bmod]

/-- What is compared: both sides of the rule as signed numbers of 64 bits. -/
theorem prefersSmall_iff (positive : PositiveOccupancy tables) :
    problem.prefersSmall device tables = true ↔
      (countAlong problem.extents.m tables.gemm.occupancyBlock *
          countAlong problem.extents.n tables.gemm.occupancyBlock * max problem.batch.toInt 1 : Int).bmod (2 ^ 64) ≤
        (problem.capacity device tables).bmod (2 ^ 64) := by
  rw [prefersSmall, decide_eq_true_eq, Int64.le_iff_toInt_le, toInt_groups problem positive.edge, Int64.toInt_mul,
    capacity]

theorem exactGroups_nonneg (problem : Problem) (edge : UInt32) : 0 ≤ problem.exactGroups edge :=
  Int.mul_nonneg (Int.mul_nonneg (Int.natCast_nonneg _) (Int.natCast_nonneg _))
    (Int.le_trans (by decide) (Int.le_max_right _ _))

theorem capacity_nonneg (positive : PositiveOccupancy tables) (problem : Problem) (device : Device) :
    0 ≤ problem.capacity device tables := by
  have cores : 0 < (tables.cores device).toInt := Int64.lt_iff_toInt_lt.mp (positive.cores device)
  have perCore : 0 < (if problem.isLarge then tables.gemm.largeGroupsPerCore
      else tables.gemm.smallGroupsPerCore).toInt := by
    split
    · exact Int64.lt_iff_toInt_lt.mp positive.largeGroups
    · exact Int64.lt_iff_toInt_lt.mp positive.smallGroups
  exact Int.mul_nonneg (Int.le_of_lt cores) (Int.le_of_lt perCore)

/-- Where nothing wraps, the rule is followed. -/
theorem Countable.prefersSmall_iff (countable : Countable problem device tables)
    (positive : PositiveOccupancy tables) :
    problem.prefersSmall device tables = true ↔
      problem.exactGroups tables.gemm.occupancyBlock ≤ problem.capacity device tables := by
  have word {value : Int} (some : 0 ≤ value) (fits : value < 2 ^ 63) : value.bmod (2 ^ 64) = value :=
    Int.bmod_eq_of_le (by omega) (by omega)
  have counted : (countAlong problem.extents.m tables.gemm.occupancyBlock *
      countAlong problem.extents.n tables.gemm.occupancyBlock * max problem.batch.toInt 1 : Int) =
        problem.exactGroups tables.gemm.occupancyBlock := by
    rw [countAlong, countAlong, if_pos countable.rows, if_pos countable.columns, exactGroups]
  rw [Problem.prefersSmall_iff positive, counted, word (exactGroups_nonneg _ _) countable.groups,
    word (capacity_nonneg positive _ _) countable.capacity]

/-- A problem with the formats of another one that is as large in every direction. -/
structure Within (problem larger : Problem) : Prop where
  memory : problem.memory = larger.memory
  rows : problem.extents.m ≤ larger.extents.m
  columns : problem.extents.n ≤ larger.extents.n
  batch : problem.batch ≤ larger.batch

theorem Within.exactGroups_le {larger : Problem} (inside : problem.Within larger) {edge : UInt32} (some : edge ≠ 0) :
    problem.exactGroups edge ≤ larger.exactGroups edge := by
  have positive : 0 < edge.toNat := Nat.pos_of_ne_zero fun zero => some (UInt32.toNat_inj.mp zero)
  have along {extent longer : UInt32} (ordered : extent ≤ longer) :
      extent.toNat ⌈/⌉ edge.toNat ≤ longer.toNat ⌈/⌉ edge.toNat := by
    rw [Nat.ceilDiv_eq_add_pred_div, Nat.ceilDiv_eq_add_pred_div]
    exact Nat.div_le_div_right (Nat.sub_le_sub_right (Nat.add_le_add_right (UInt32.le_iff_toNat_le.mp ordered) _) 1)
  have area := Nat.mul_le_mul (along inside.rows) (along inside.columns)
  have batches : max problem.batch.toInt 1 ≤ max larger.batch.toInt 1 :=
    max_le_max (Int64.le_iff_toInt_le.mp inside.batch) (Int.le_refl 1)
  exact Int.mul_le_mul (by exact_mod_cast area) batches (Int.le_trans (by decide) (Int.le_max_right _ _))
    (by exact_mod_cast Nat.zero_le _)

/-- As long as nothing wraps for the larger problem, it does not get the small block back. -/
theorem prefersSmall_of_within {larger : Problem} (positive : PositiveOccupancy tables)
    (inside : problem.Within larger) (countable : Countable larger device tables)
    (small : larger.prefersSmall device tables = true) : problem.prefersSmall device tables = true := by
  have fewer := inside.exactGroups_le positive.edge
  have sameCapacity : problem.capacity device tables = larger.capacity device tables := by
    have sameFormats : problem.isLarge = larger.isLarge := by rw [isLarge, isLarge, inside.memory]
    rw [capacity, capacity, sameFormats]
  have rows := UInt32.le_iff_toNat_le.mp inside.rows
  have columns := UInt32.le_iff_toNat_le.mp inside.columns
  have also : Countable problem device tables :=
    ⟨Nat.le_trans (Nat.add_le_add_right rows _) countable.rows,
      Nat.le_trans (Nat.add_le_add_right columns _) countable.columns,
      Int.lt_of_le_of_lt fewer countable.groups, sameCapacity ▸ countable.capacity⟩
  rw [countable.prefersSmall_iff positive] at small
  rw [also.prefersSmall_iff positive, sameCapacity]
  exact Int.le_trans fewer small

/-- The block of a problem on the older generations. -/
def stagedBlock (problem : Problem) (tables : Tables) (small : Bool) : Block :=
  if small then tables.gemm.blocks.small
  else if problem.isLarge then tables.gemm.blocks.largeFp32
  else tables.gemm.blocks.largeFp16

theorem descriptor_of_staged (complete : problem.check = .ok ())
    (older : device.family = .apple7 ∨ device.family = .apple8) :
    ∃ descriptor, problem.descriptor device tables = .ok descriptor ∧
      descriptor.block = problem.stagedBlock tables (problem.prefersSmall device tables) := by
  have known : device.family.isValid = true := by rcases older with seven | eight <;> simp [*, Family.isValid]
  have stages : device.family.prefersAsyncCopy = true := by
    rcases older with seven | eight <;> simp [*, Family.prefersAsyncCopy]
  unfold Problem.descriptor
  rw [complete, stagedBlock]
  simp only [known, stages, Bool.not_true, Bool.false_eq_true, if_false, Except.mapError, ok_bind]
  split
  · exact ⟨_, rfl, rfl⟩
  · split
    · exact ⟨_, rfl, rfl⟩
    · exact ⟨_, rfl, rfl⟩

end Problem

open Problem in
/-- On the older generations every complete problem has a kernel. It has the small block if the counts of threadgroups,
    with those along an extent that wraps left out, and the capacity of the device compare that way modulo 2⁶⁴. As long
    as nothing wraps, that is the rule over unbounded numbers, and a larger problem never gets the small block back. -/
theorem block_of_occupancy {tables : Tables} (valid : tables.validate = .ok ()) {device : Device}
    (older : device.family = .apple7 ∨ device.family = .apple8) {problem : Problem}
    (complete : problem.check = .ok ()) :
    (∃ descriptor, problem.descriptor device tables = .ok descriptor ∧
      descriptor.block = problem.stagedBlock tables (problem.prefersSmall device tables)) ∧
    (problem.prefersSmall device tables = true ↔
      (countAlong problem.extents.m tables.gemm.occupancyBlock *
          countAlong problem.extents.n tables.gemm.occupancyBlock * max problem.batch.toInt 1 : Int).bmod (2 ^ 64) ≤
        (problem.capacity device tables).bmod (2 ^ 64)) ∧
    (Countable problem device tables → (problem.prefersSmall device tables = true ↔
      problem.exactGroups tables.gemm.occupancyBlock ≤ problem.capacity device tables)) ∧
    ∀ larger : Problem, problem.Within larger → Countable larger device tables →
      larger.prefersSmall device tables = true → problem.prefersSmall device tables = true := by
  have positive := positiveOccupancy_of_validate valid
  exact ⟨descriptor_of_staged complete older, prefersSmall_iff positive,
    fun countable => countable.prefersSmall_iff positive,
    fun _ inside countable => prefersSmall_of_within positive inside countable⟩

/-- Sixty groups of 48 rows and columns, which ten cores just hold. -/
def fullProblem (batch : Int64) : Problem where
  batch
  extents := ⟨288, 480, 64⟩
  memory := ⟨.fp32, .fp32, .fp32⟩

theorem block_of_occupancy_full : Tables.builtIn.validate = .ok () ∧
    (fullProblem 1).prefersSmall { family := .apple7, cores := 10 } Tables.builtIn = true ∧
    (fullProblem (-5)).prefersSmall { family := .apple7, cores := 10 } Tables.builtIn = true ∧
    ∃ descriptor, (fullProblem 2).descriptor { family := .apple8, cores := 10 } Tables.builtIn = .ok descriptor ∧
      descriptor.block = ⟨48, 48, 24⟩ := by
  have valid : Tables.builtIn.validate = .ok () := by decide +kernel
  have countable : (fullProblem 1).Countable { family := .apple7, cores := 10 } Tables.builtIn :=
    ⟨by decide, by decide, by decide, by decide⟩
  have doubled : (fullProblem 2).Countable { family := .apple8, cores := 10 } Tables.builtIn :=
    ⟨by decide, by decide, by decide, by decide⟩
  have inside : (fullProblem (-5)).Within (fullProblem 1) := ⟨rfl, by decide, by decide, by decide⟩
  obtain ⟨-, -, rule, -⟩ := @block_of_occupancy _ valid { family := .apple7, cores := 10 } (.inl rfl) (fullProblem 1)
    (by decide +kernel)
  obtain ⟨-, -, -, fewer⟩ := @block_of_occupancy _ valid { family := .apple7, cores := 10 } (.inl rfl)
    (fullProblem (-5)) (by decide +kernel)
  obtain ⟨⟨descriptor, chosen, block⟩, -, crowded, -⟩ := @block_of_occupancy _ valid
    { family := .apple8, cores := 10 } (.inr rfl) (fullProblem 2) (by decide +kernel)
  have small := (rule countable).mpr (by decide)
  have large : (fullProblem 2).prefersSmall { family := .apple8, cores := 10 } Tables.builtIn = false :=
    Bool.eq_false_iff.mpr fun held => absurd ((crowded doubled).mp held) (by decide)
  rw [large] at block
  exact ⟨valid, small, fewer _ inside countable small, descriptor, chosen, block⟩

/-- The built-in tables, with threadgroups counted by a block of 64 rows and columns. -/
def coarseTables : Tables :=
  { Tables.builtIn with gemm := { Tables.builtIn.gemm with occupancyBlock := 64 } }

/-- A product of nearly the longest rows there are. -/
def tallProblem (m : UInt32) : Problem where
  extents := ⟨m, 64, 64⟩
  memory := ⟨.fp32, .fp32, .fp32⟩

/-- A product that fills the device many times over takes the small block, which a shorter one does not. -/
theorem block_wraps : coarseTables.validate = .ok () ∧ (tallProblem 4294967240).check = .ok () ∧
    (tallProblem 4294967240).descriptor { family := .apple7 } coarseTables = .ok (squareDescriptor ⟨32, 32, 32⟩) ∧
    ¬ (tallProblem 4294967240).exactGroups coarseTables.gemm.occupancyBlock ≤
      (tallProblem 4294967240).capacity { family := .apple7 } coarseTables ∧
    (tallProblem 4294967232).prefersSmall { family := .apple7 } coarseTables = false :=
  ⟨by decide +kernel, by decide +kernel, rfl, by decide, by decide +kernel⟩

end KernelForge.Gemm
