import KernelForge.Proofs.Attention.Numbers
import KernelForge.Proofs.Attention.Buffers
import KernelForge.Attention.Reference

/-!
Matrices of real numbers in buffers. Whoever reads a row of one, the reference or a kernel, gets real numbers;
a kernel that reads behind the end of a sequence gets zeros.
-/

namespace KernelForge.Attention

open Exact

/-- The rows of a step beside their numbers. -/
theorem zipIdx_map_range {β : Type} (f : Nat → β) (count : Nat) :
    ((List.range count).map f).zipIdx = (List.range count).map fun index => (f index, index) := by
  refine List.ext_getElem (by simp) fun index _ _ => ?_
  simp

/-- All numbers of all buffers changed alike. -/
def Buffers.map {α β : Type} (change : α → β) (buffers : Buffers α) : Buffers β :=
  ⟨buffers.contents.map (Array.map change)⟩

theorem Buffers.get_map {α β : Type} (change : α → β) (buffers : Buffers α) (operand : Operand) :
    (buffers.map change).get operand = (buffers.get operand).map change :=
  Vector.getElem_map (Array.map change) operand.index_lt

namespace Buffers

/-- A buffer holds a matrix. -/
def Holds (buffers : Buffers EReal) (problem : Problem) (operand : Operand) (matrix : Nat → Nat → ℝ) : Prop :=
  ∀ index < (problem.layout operand).length, ∀ dimension < (problem.layout operand).head,
    (buffers.get operand)[(problem.layout operand).position index dimension]? =
      some (matrix index dimension : EReal)

/-- The matrix that a buffer of real numbers holds. -/
noncomputable def matrix (inputs : Buffers ℝ) (problem : Problem) (operand : Operand) (index dimension : Nat) : ℝ :=
  (inputs.get operand)[(problem.layout operand).position index dimension]?.getD 0

variable {problem : Problem} {operand : Operand} {matrix : Nat → Nat → ℝ} {buffers after : Buffers EReal}

theorem holds_map {inputs : Buffers ℝ} (long : (problem.layout operand).size ≤ (inputs.get operand).size) :
    (inputs.map Real.toEReal).Holds problem operand (inputs.matrix problem operand) := by
  intro index inLength dimension inHead
  have inside := Nat.lt_of_lt_of_le (Layout.position_lt inLength inHead) long
  simp [get_map, Buffers.matrix, inside]

theorem Holds.agrees {changed : List Operand} (holds : buffers.Holds problem operand matrix)
    (agrees : Agrees changed buffers after) (outside : operand ∉ changed) :
    after.Holds problem operand matrix := by
  intro index inLength dimension inHead
  rw [agrees.kept operand outside]
  exact holds index inLength dimension inHead

theorem Holds.row (holds : buffers.Holds problem operand matrix) {index : Nat}
    (inLength : index < (problem.layout operand).length) :
    buffers.row problem operand index = .ok (realRow (problem.layout operand).head (matrix index)) := by
  refine mapM_eq_ok_map _ _ _ ?_
  intro dimension member
  exact readCell_ok (holds index inLength dimension (List.mem_range.mp member))

/-- A vector is a matrix of one column. -/
theorem Holds.cell (holds : buffers.Holds problem operand matrix) {length : Nat}
    (isVector : problem.layout operand = ⟨length, 1, false⟩) {index : Nat} (inLength : index < length) :
    (buffers.get operand)[index]? = some (matrix index 0 : EReal) := by
  have found := holds index (by rw [isVector]; exact inLength) 0 (by rw [isVector]; exact one_pos)
  rw [isVector] at found
  simpa [Layout.position] using found

theorem Holds.rows (holds : buffers.Holds problem operand matrix) :
    buffers.rows problem operand =
      .ok (realRows (problem.layout operand).length (problem.layout operand).head matrix) := by
  refine mapM_eq_ok_map _ _ _ ?_
  intro index member
  exact holds.row (List.mem_range.mp member)

/-- Whoever reads a matrix of real numbers in a buffer finds it there. -/
theorem holds_of_rows (rows : buffers.rows problem operand =
      .ok (realRows (problem.layout operand).length (problem.layout operand).head matrix)) :
    buffers.Holds problem operand matrix := by
  intro index inLength dimension inHead
  have row : buffers.row problem operand index = .ok _ := eq_ok_of_mapM rows (List.mem_range.mpr inLength)
  exact getElem?_of_readCell (eq_ok_of_mapM row (List.mem_range.mpr inHead))

end Buffers

/-- A matrix with rows of zeros behind its last. -/
noncomputable def padded (length : Nat) (matrix : Nat → Nat → ℝ) (index dimension : Nat) : ℝ :=
  if index < length then matrix index dimension else 0

theorem padded_of_lt {length index : Nat} (matrix : Nat → Nat → ℝ) (inside : index < length) :
    padded length matrix index = matrix index := by
  funext dimension
  exact if_pos inside

namespace Launch

variable [Remains] {launch : Launch} {operand : Operand} {matrix : Nat → Nat → ℝ} {buffers : Buffers EReal}

theorem loadRow_real {length width : Nat} (holds : buffers.Holds launch.problem operand matrix)
    (isLength : (launch.problem.layout operand).length = length)
    (isWidth : (launch.problem.layout operand).head = width) (isHead : launch.head = width) (index : Nat) :
    launch.loadRow buffers operand index = .ok (realRow width (padded length matrix index)) := by
  subst isLength isHead
  unfold loadRow
  split
  · rename_i beyond
    have zeros : padded (launch.problem.layout operand).length matrix index = fun _ => 0 :=
      funext fun _ => if_neg (Nat.not_lt.mpr beyond)
    rw [zeros, ← replicate_realRow]
    rfl
  · rename_i inside
    rw [holds.row (Nat.not_le.mp inside), padded_of_lt _ (Nat.not_le.mp inside), isWidth]
    exact congrArg Except.ok (List.map_id _)

theorem loadRows_real {length width : Nat} (holds : buffers.Holds launch.problem operand matrix)
    (isLength : (launch.problem.layout operand).length = length)
    (isWidth : (launch.problem.layout operand).head = width) (isHead : launch.head = width) (start : Nat) :
    launch.loadRows buffers operand start =
      .ok (realRows launch.step width fun offset => padded length matrix (start + offset)) := by
  refine mapM_eq_ok_map _ _ _ ?_
  intro offset _
  exact loadRow_real holds isLength isWidth isHead (start + offset)

/-- Nothing is lost on the way through memory. -/
theorem betweenSteps_real (operand : Operand) (values : List EReal) :
    launch.betweenSteps operand values = values := by
  unfold betweenSteps
  split
  · rfl
  · exact List.map_id values

omit [Remains] in
/-- The steps over a sequence keep an invariant that speaks about how much of the sequence they have covered. -/
theorem foldlM_stepStarts {σ : Type} (launch : Launch) (positive : 0 < launch.step) (length : Nat)
    (body : σ → Nat → Except Failure σ) (invariant : Nat → σ → Prop)
    (advance : ∀ start < length, ∀ state, invariant start state →
      ∃ next, body state start = .ok next ∧ invariant (start + launch.step) next)
    (state : σ) (begins : invariant 0 state) :
    ∃ last, (launch.stepStarts length).foldlM body state = .ok last ∧
      ∃ covered, length ≤ covered ∧ invariant covered last := by
  obtain ⟨last, folded, held⟩ := foldlM_range (fun state index => body state (index * launch.step))
    (fun index state => invariant (index * launch.step) state) ((length + launch.step - 1) / launch.step)
    (by
      intro index below state held
      rw [Nat.succ_mul]
      exact advance _ (mul_lt_of_lt_ceil positive below) state held)
    state (by rwa [Nat.zero_mul])
  refine ⟨last, ?_, _, le_ceil_mul positive, held⟩
  unfold stepStarts
  rw [List.foldlM_map]
  exact folded

end Launch

/-- What may be stored in a cell of an operand: the entry of its result that lies there. -/
def Correct (problem : Problem) (result : Operand → Nat → Nat → ℝ) (operand : Operand) (cell : Nat)
    (value : EReal) : Prop :=
  ∀ index < (problem.layout operand).length, ∀ dimension < (problem.layout operand).head,
    cell = (problem.layout operand).position index dimension → value = result operand index dimension

/-- The cells of a row of some operands. -/
def RowCells (problem : Problem) (written : List Operand) (index : Nat) (operand : Operand) (cell : Nat) : Prop :=
  operand ∈ written ∧ ∃ dimension < (problem.layout operand).head,
    cell = (problem.layout operand).position index dimension

namespace Launch

open Buffers

variable [Remains] {launch : Launch} {buffers : Buffers EReal}
  (result : Operand → Nat → Nat → ℝ) {index : Nat}

theorem storeRow_real (operand : Operand) {values : List EReal}
    (isRow : values = realRow (launch.problem.layout operand).head (result operand index))
    (inside : index < (launch.problem.layout operand).length)
    (long : (launch.problem.layout operand).size ≤ (buffers.get operand).size) :
    ∃ next, launch.storeRow operand index values buffers = .ok next ∧
      Stored (Correct launch.problem result) (RowCells launch.problem [operand] index) buffers next := by
  have fine : ∀ dimension < (launch.problem.layout operand).head, Correct launch.problem result operand
      ((launch.problem.layout operand).position index dimension) (result operand index dimension) := by
    intro dimension below index' inside' dimension' below' equal
    obtain ⟨rfl, rfl⟩ := Layout.position_injective inside below inside' below' equal
    rfl
  obtain ⟨next, stored, written⟩ := setRow_stored (fun dimension => (result operand index dimension : EReal))
    inside long fine
  refine ⟨next, ?_, written.congr fun other cell => ?_⟩
  · have unrounded : values.map (Register.round (launch.kernel.memory operand)) = values := List.map_id values
    rw [storeRow, unrounded, isRow]
    exact stored
  · simp only [RowCells, List.mem_singleton]
    constructor <;> rintro ⟨rfl, here⟩ <;> exact ⟨rfl, here⟩

theorem storeCell_real (operand : Operand) {value : EReal} (isValue : value = result operand index 0)
    (isVector : launch.problem.layout operand = ⟨launch.rowCount, 1, false⟩) (inside : index < launch.rowCount)
    (long : (launch.problem.layout operand).size ≤ (buffers.get operand).size) :
    ∃ next, launch.storeCell operand index value buffers = .ok next ∧
      Stored (Correct launch.problem result) (RowCells launch.problem [operand] index) buffers next := by
  -- A vector is a matrix of one column.
  have place : (launch.problem.layout operand).position index 0 = index := by
    rw [isVector]
    exact Nat.mul_one index
  have fine : Correct launch.problem result operand index value := by
    rw [isValue]
    intro index' inside' dimension below equal
    obtain ⟨rfl, rfl⟩ := Layout.position_injective (by rw [isVector]; exact inside) (by rw [isVector]; exact one_pos)
      inside' below (place.trans equal)
    rfl
  have within : index < (buffers.get operand).size := by
    rw [isVector, Layout.size, Nat.mul_one] at long
    exact Nat.lt_of_lt_of_le inside long
  obtain ⟨next, stored, written⟩ := setCell_stored within fine
  refine ⟨next, stored, written.congr fun other cell => ?_⟩
  simp only [RowCells, List.mem_singleton]
  constructor
  · rintro ⟨rfl, rfl⟩
    exact ⟨rfl, 0, by rw [isVector]; exact one_pos, place.symm⟩
  · rintro ⟨rfl, dimension, below, rfl⟩
    rw [isVector] at below ⊢
    obtain rfl : dimension = 0 := Nat.lt_one_iff.mp below
    exact ⟨rfl, Nat.mul_one index⟩

omit [Remains] in
/-- A store to some operands after a store to others. -/
theorem stored_append {first second : List Operand} {middle after : Buffers EReal}
    (stored : Stored (Correct launch.problem result) (RowCells launch.problem first index) buffers middle)
    (later : Stored (Correct launch.problem result) (RowCells launch.problem second index) middle after) :
    Stored (Correct launch.problem result) (RowCells launch.problem (first ++ second) index) buffers after := by
  refine (stored.trans later).congr fun other cell => ?_
  simp only [RowCells, List.mem_append, or_and_right]

/-- Blocks that are not empty, threadgroups that together own the whole sequence, in any order, and room for the
    results. -/
structure Complete (launch : Launch) (groups : List Nat) (buffers : Buffers EReal) : Prop where
  step : 0 < launch.step
  group : 0 < launch.groupSize
  covered : ∀ index < launch.parallelCount, index / launch.groupSize ∈ groups
  long : ∀ operand ∈ launch.kernel.descriptor.type.results,
    (launch.problem.layout operand).size ≤ (buffers.get operand).size

omit [Remains] in
theorem Complete.agrees {groups : List Nat} {changed : List Operand} {after : Buffers EReal}
    (complete : launch.Complete groups buffers) (agrees : Agrees changed buffers after) :
    launch.Complete groups after := by
  refine ⟨complete.step, complete.group, complete.covered, ?_⟩
  intro operand member
  rw [agrees.size operand]
  exact complete.long operand member

/-- A run over all rows leaves the results in the operands it writes, and nothing else changed. -/
theorem runGroups_holds {groups : List Nat} (complete : launch.Complete groups buffers)
    (parallel : ∀ operand ∈ launch.kernel.descriptor.type.results,
      (launch.problem.layout operand).length = launch.parallelCount)
    (each : ∀ index < launch.parallelCount, ∀ held,
      Agrees launch.kernel.descriptor.type.results buffers held →
        ∃ next, launch.runRow index held = .ok next ∧ Stored (Correct launch.problem result)
          (RowCells launch.problem launch.kernel.descriptor.type.results index) held next) :
    ∃ last, launch.runGroups groups buffers = .ok last ∧
      Agrees launch.kernel.descriptor.type.results buffers last ∧
        ∀ operand ∈ launch.kernel.descriptor.type.results, last.Holds launch.problem operand (result operand) := by
  obtain ⟨last, ran, stored⟩ := launch.runGroups_stored (Correct launch.problem result)
    launch.kernel.descriptor.type.results (RowCells launch.problem launch.kernel.descriptor.type.results) groups
    buffers complete.group (fun _ _ _ here => here.1) each
  refine ⟨last, ran, stored.agrees ?_, ?_⟩
  · rintro operand cell ⟨-, -, -, member, -⟩
    exact member
  · intro operand member index inLength dimension inHead
    have inside := parallel operand member ▸ inLength
    obtain ⟨value, found, correct⟩ := (stored operand).written _
      ⟨index, inside, complete.covered index inside, member, dimension, inHead, rfl⟩
    rw [found, correct index inLength dimension inHead rfl]

end Launch

end KernelForge.Attention
