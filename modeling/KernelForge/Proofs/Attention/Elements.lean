import KernelForge.Proofs.Attention.Rows

/-!
Where the rows of the passes store what. The elements of the results of a pass are divided among its rows: a row stores
its own row of each result, and a column of the pass for keys and values its column of the stored scores. No two
elements share a cell, and all of them together are the results.
-/

namespace KernelForge.Attention

/-- The elements of the results of a pass. The stored derivative of the scores has rows with a stride of its own. -/
def Problem.IsResult (problem : Problem) (type : KernelType) (operand : Operand) (cell : Nat) : Prop :=
  operand ∈ type.results ∧
    if operand = .dST then
      ∃ row < problem.extents.row.toNat, ∃ column < problem.extents.column.toNat,
        cell = row * problem.scoreStride.toNat + column
    else
      ∃ index < (problem.layout operand).length, ∃ dimension < (problem.layout operand).head,
        cell = (problem.layout operand).position index dimension

theorem KernelType.mem_operands_of_result {type : KernelType} (known : type ∈ all) {operand : Operand}
    (member : operand ∈ type.results) : operand ∈ type.operands.toList := by
  revert type operand
  decide

theorem KernelType.pass_of_result_dST {type : KernelType} (known : type ∈ all) (member : .dST ∈ type.results) :
    type.pass = .backwardKeyValue := by
  revert type
  decide

namespace Launch

open Register SoftmaxRegister

variable {α : Type} [SoftmaxRegister α]

/-- The number of elements of an operand that a row, or column, stores. -/
def width (launch : Launch) (operand : Operand) : Nat :=
  if operand = .dST then launch.rowCount else (launch.problem.layout operand).head

/-- Where it stores them. -/
def place (launch : Launch) (operand : Operand) (index element : Nat) : Nat :=
  if operand = .dST then element * launch.problem.scoreStride.toNat + index
  else (launch.problem.layout operand).position index element

/-- What it stores there. -/
def entry (launch : Launch) (buffers : Buffers α) (operand : Operand) (index element : Nat) : α :=
  round (launch.kernel.memory operand) <|
    match operand with
    | .o => (launch.rowSoftmax buffers index).output[element]?.getD Scalar.zero
    | .l => (launch.rowSoftmax buffers index).greatest + log2 (launch.rowSoftmax buffers index).total
    | .d => launch.rowProduct buffers index
    | .dQ => launch.querySum buffers index element
    | .dV => (launch.keyTotals buffers index).value[element]?.getD Scalar.zero
    | .dK => (launch.keyTotals buffers index).key[element]?.getD Scalar.zero
    | .dST => (launch.keyPair buffers index element).derivative
    | _ => Scalar.zero

/-- What may stand in a cell of a result. -/
def Expected (launch : Launch) (buffers : Buffers α) (operand : Operand) (cell : Nat) (value : α) : Prop :=
  operand ∈ launch.kernel.descriptor.type.results → ∀ index < launch.parallelCount,
    ∀ element < launch.width operand, cell = launch.place operand index element →
      value = launch.entry buffers operand index element

/-- The cells of an operand that a row stores. -/
def operandCells (launch : Launch) (index : Nat) (operand : Operand) : List (Operand × Nat) :=
  (List.range (launch.width operand)).map fun element => (operand, launch.place operand index element)

/-- All cells that a row stores. -/
def rowCells (launch : Launch) (index : Nat) : List (Operand × Nat) :=
  launch.kernel.descriptor.type.results.flatMap (launch.operandCells index)

variable {launch : Launch} {buffers : Buffers α} {operand : Operand}

omit [SoftmaxRegister α] in
theorem layout_length (known : launch.kernel.descriptor.type ∈ KernelType.all)
    (member : operand ∈ launch.kernel.descriptor.type.results) (matrix : operand ≠ .dST) :
    (launch.problem.layout operand).length = launch.parallelCount := by
  have along : ∀ type ∈ KernelType.all, ∀ operand ∈ type.results, operand ≠ .dST →
      (operand ∈ [Operand.dV, .dK] ∧ type.pass = .backwardKeyValue) ∨
        (operand ∈ [Operand.o, .l, .d, .dQ] ∧ type.pass ≠ .backwardKeyValue) := by decide
  unfold parallelCount
  rcases along _ known _ member matrix with ⟨columns, isKey⟩ | ⟨rows, notKey⟩
  · rw [if_pos isKey]
    simp only [List.mem_cons, List.not_mem_nil, or_false] at columns
    rcases columns with rfl | rfl <;> rfl
  · rw [if_neg notKey]
    simp only [List.mem_cons, List.not_mem_nil, or_false] at rows
    rcases rows with rfl | rfl | rfl | rfl <;> rfl

omit [SoftmaxRegister α] in
theorem parallelCount_dST (known : launch.kernel.descriptor.type ∈ KernelType.all)
    (member : .dST ∈ launch.kernel.descriptor.type.results) : launch.parallelCount = launch.columnCount :=
  if_pos (KernelType.pass_of_result_dST known member)

section Places

variable (fits : launch.Fits buffers) (member : operand ∈ launch.kernel.descriptor.type.results)
include fits member

omit [SoftmaxRegister α] in
/-- No two elements are stored in the same place. -/
theorem Fits.place_injective {index element index' element' : Nat} (inside : index < launch.parallelCount)
    (below : element < launch.width operand) (inside' : index' < launch.parallelCount)
    (below' : element' < launch.width operand)
    (equal : launch.place operand index element = launch.place operand index' element') :
    index = index' ∧ element = element' := by
  unfold place at equal
  unfold width at below below'
  split at equal
  · rename_i scores
    subst scores
    rw [parallelCount_dST fits.known member] at inside inside'
    exact (rowMajor_injective (Nat.lt_of_lt_of_le inside fits.stride) (Nat.lt_of_lt_of_le inside' fits.stride)
      equal).symm
  · rename_i matrix
    rw [if_neg matrix] at below below'
    rw [← layout_length fits.known member matrix] at inside inside'
    exact Layout.position_injective inside below inside' below' equal

omit [SoftmaxRegister α] in
theorem Fits.place_lt {index element : Nat} (inside : index < launch.parallelCount)
    (below : element < launch.width operand) : launch.place operand index element < (buffers.get operand).size := by
  have bound := KernelType.mem_operands_of_result fits.known member
  unfold place
  unfold width at below
  split
  · rename_i scores
    subst scores
    rw [parallelCount_dST fits.known member] at inside
    exact Nat.lt_of_lt_of_le (rectangle_index below (Nat.lt_of_lt_of_le inside fits.stride)).1 (fits.scores bound)
  · rename_i matrix
    rw [if_neg matrix] at below
    rw [← layout_length fits.known member matrix] at inside
    exact Nat.lt_of_lt_of_le (Layout.position_lt inside below) (fits.long operand bound matrix)

theorem Fits.expected_entry {index element : Nat} (inside : index < launch.parallelCount)
    (below : element < launch.width operand) :
    launch.Expected buffers operand (launch.place operand index element)
      (launch.entry buffers operand index element) := by
  intro _ index' inside' element' below' equal
  obtain ⟨rfl, rfl⟩ := fits.place_injective member inside below inside' below' equal
  rfl

end Places

omit [SoftmaxRegister α] in
theorem mem_rowCells {index cell : Nat} : (operand, cell) ∈ launch.rowCells index ↔
    operand ∈ launch.kernel.descriptor.type.results ∧
      ∃ element < launch.width operand, cell = launch.place operand index element := by
  simp only [rowCells, operandCells, List.mem_flatMap, List.mem_map, List.mem_range, Prod.mk.injEq]
  constructor
  · rintro ⟨other, member, element, below, rfl, rfl⟩
    exact ⟨member, element, below, rfl⟩
  · rintro ⟨member, element, below, rfl⟩
    exact ⟨operand, member, element, below, rfl, rfl⟩

omit [SoftmaxRegister α] in
/-- The rows together store exactly the elements of the results. -/
theorem isResult_iff (known : launch.kernel.descriptor.type ∈ KernelType.all) (operand : Operand) (cell : Nat) :
    launch.problem.IsResult launch.kernel.descriptor.type operand cell ↔
      (operand, cell) ∈ (List.range launch.parallelCount).flatMap launch.rowCells := by
  simp only [List.mem_flatMap, List.mem_range, mem_rowCells, Problem.IsResult, width, place]
  constructor
  · rintro ⟨member, found⟩
    split at found
    · rename_i scores
      subst scores
      obtain ⟨row, inRows, column, inColumns, rfl⟩ := found
      rw [parallelCount_dST known member]
      exact ⟨column, inColumns, member, row, inRows, rfl⟩
    · rename_i matrix
      obtain ⟨index, inside, dimension, below, rfl⟩ := found
      rw [layout_length known member matrix] at inside
      exact ⟨index, inside, member, dimension, by rwa [if_neg matrix], by rw [if_neg matrix]⟩
  · rintro ⟨index, inside, member, element, below, rfl⟩
    refine ⟨member, ?_⟩
    split
    · rename_i scores
      subst scores
      rw [parallelCount_dST known member] at inside
      exact ⟨element, below, index, inside, rfl⟩
    · rename_i matrix
      rw [if_neg matrix] at below
      rw [← layout_length known member matrix] at inside
      exact ⟨index, inside, element, below, rfl⟩

omit [SoftmaxRegister α] in
theorem Fits.nodup_rowCells (fits : launch.Fits buffers) {index : Nat} (inside : index < launch.parallelCount) :
    (launch.rowCells index).Nodup := by
  have distinct : ∀ type ∈ KernelType.all, type.results.Nodup := by decide
  refine List.nodup_flatMap.mpr ⟨fun operand member => ?_, (distinct _ fits.known).imp fun different => ?_⟩
  · refine List.Nodup.map_on ?_ List.nodup_range
    intro element below element' below' equal
    exact (fits.place_injective member inside (List.mem_range.mp below) inside (List.mem_range.mp below')
      (Prod.mk.inj equal).2).2
  · rw [Function.onFun, List.disjoint_left]
    intro cell here there
    obtain ⟨_, _, rfl⟩ := List.mem_map.mp here
    obtain ⟨_, _, equal⟩ := List.mem_map.mp there
    exact different (Prod.mk.inj equal).1.symm

omit [SoftmaxRegister α] in
/-- No cell is stored twice. -/
theorem Fits.nodup_cells (fits : launch.Fits buffers) :
    ((List.range launch.parallelCount).flatMap launch.rowCells).Nodup := by
  refine List.nodup_flatMap.mpr ⟨fun index member => fits.nodup_rowCells (List.mem_range.mp member), ?_⟩
  refine List.nodup_range.imp_of_mem fun {index index'} inside inside' different => ?_
  rw [Function.onFun, List.disjoint_left]
  rintro ⟨operand, cell⟩ here there
  obtain ⟨member, element, below, rfl⟩ := mem_rowCells.mp here
  obtain ⟨-, element', below', equal⟩ := mem_rowCells.mp there
  exact different (fits.place_injective member (List.mem_range.mp inside) below (List.mem_range.mp inside') below'
    equal).1

end Launch

end KernelForge.Attention
