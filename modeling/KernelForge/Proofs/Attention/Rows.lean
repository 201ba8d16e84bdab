import KernelForge.Proofs.Attention.Padding

/-!
What the rows of the passes compute. A launch fits its buffers when the kernel was accepted, the check passed and the
sequences are short enough for 32 bit arithmetic; then no access is out of range, and everything that a row loads and
computes is a plain function of the buffers. These functions read the inputs of their pass only, so what a row stores
does not depend on which rows were stored before it.
-/

namespace KernelForge

variable {α σ ι ε : Type}

/-- A loop whose steps are known is a plain fold. -/
theorem foldlM_eq_ok_foldl (step : σ → ι → Except ε σ) (advance : σ → ι → σ) (items : List ι) (state : σ)
    (each : ∀ item ∈ items, ∀ state, step state item = .ok (advance state item)) :
    items.foldlM step state = .ok (items.foldl advance state) := by
  induction items generalizing state with
  | nil => rfl
  | cons head tail ih =>
    rw [List.foldlM_cons, each head (by simp), ok_bind, List.foldl_cons]
    exact ih _ fun item member => each item (by simp [member])

theorem Scalar.length_weightedSum [Scalar α] {width : Nat} {terms : List (α × List α)}
    (each : ∀ term ∈ terms, term.2.length = width) : (weightedSum width terms).length = width := by
  refine List.foldlRecOn terms _ (motive := fun held : List α => held.length = width) (List.length_replicate ..) ?_
  intro held isWidth term member
  rw [List.length_zipWith, isWidth, each term member, Nat.min_self]

theorem Register.length_accumulateRows [Register α] (precision : Precision) {registers : List α}
    {terms : List (α × List α)} (each : ∀ term ∈ terms, term.2.length = registers.length) :
    (accumulateRows precision registers terms).length = registers.length := by
  refine List.foldlRecOn (eights terms) _ (motive := fun held : List α => held.length = registers.length) rfl ?_
  intro held isWidth piece member
  have within : ∀ term ∈ piece, term.2.length = registers.length := by
    intro term inPiece
    refine each term ?_
    rw [← eights_flatten terms]
    exact List.mem_flatten.mpr ⟨piece, member, inPiece⟩
  rw [List.length_zipWith, isWidth, Scalar.length_weightedSum within, Nat.min_self]

end KernelForge

namespace KernelForge.Attention

open Buffers Register SoftmaxRegister

/-- Neither sequence is too long for the 32 bit arithmetic of the grid and of the stored scores. -/
structure Problem.Short (problem : Problem) : Prop where
  rows : problem.extents.row.toNat ≤ 2 ^ 31
  columns : problem.extents.column.toNat ≤ 2 ^ 31

/-- The stride of the stored scores does not wrap. -/
theorem Problem.Short.toNat_scoreStride {problem : Problem} (short : problem.Short) :
    problem.scoreStride.toNat = (problem.extents.column.toNat + 31) / 32 * 32 := by
  have columns := short.columns
  unfold scoreStride
  rw [UInt32.toNat_mul, UInt32.toNat_div, UInt32.toNat_add]
  simp only [UInt32.reduceToNat]
  omega

theorem Problem.Short.toInt_bufferSize_scores {problem : Problem} (short : problem.Short) :
    (problem.bufferSize .dST).toInt = problem.extents.row.toNat * problem.scoreStride.toNat := by
  have stride : problem.scoreStride.toNat ≤ 2 ^ 31 := by
    have columns := short.columns
    rw [short.toNat_scoreStride]
    omega
  have product : problem.extents.row.toNat * problem.scoreStride.toNat < 2 ^ 63 :=
    calc problem.extents.row.toNat * problem.scoreStride.toNat ≤ 2 ^ 31 * 2 ^ 31 := Nat.mul_le_mul short.rows stride
      _ < 2 ^ 63 := by norm_num
  unfold bufferSize
  rw [if_pos rfl, ← Int64.ofNat_mul, Int64.toInt_ofNat_of_lt product]
  exact Int.natCast_mul _ _

/-- The operands that a pass reads. -/
def KernelType.inputs (type : KernelType) : List Operand :=
  if type.pass = .forward then [.q, .k, .v]
  else if type.pass = .backwardQuery then if type.secondary then [.q, .k, .v, .o, .l, .dO] else [.o, .dO]
  else if type.pass = .backwardKeyValue then [.q, .k, .v, .l, .dO, .d]
  else []

theorem KernelType.inputs_forward {type : KernelType} (isForward : type.pass = .forward) :
    type.inputs = [.q, .k, .v] := by
  simp [inputs, isForward]

theorem KernelType.mem_inputs_query {type : KernelType} (isQuery : type.pass = .backwardQuery) :
    .o ∈ type.inputs ∧ .dO ∈ type.inputs := by
  cases secondary : type.secondary <;> simp [inputs, isQuery, secondary]

theorem KernelType.inputs_keyValue {type : KernelType} (isKey : type.pass = .backwardKeyValue) :
    type.inputs = [.q, .k, .v, .l, .dO, .d] := by
  simp [inputs, isKey]

theorem KernelType.mem_accumulators_dV {type : KernelType} (isKey : type.pass = .backwardKeyValue) :
    .dV ∈ type.accumulators.toList := by
  obtain ⟨pass, secondary⟩ := type
  subst isKey
  cases secondary <;> decide

theorem KernelType.mem_accumulators_dK {type : KernelType} (isKey : type.pass = .backwardKeyValue)
    (secondary : type.secondary = true) : .dK ∈ type.accumulators.toList := by
  obtain ⟨pass, chosen⟩ := type
  subst isKey secondary
  decide

/-- No pass writes what it reads. -/
theorem KernelType.of_mem_inputs {type : KernelType} (known : type ∈ all) {operand : Operand}
    (member : operand ∈ type.inputs) :
    operand ∈ type.operands.toList ∧ operand ≠ .dST ∧ operand ∉ type.results := by
  revert type operand
  decide

namespace Launch

variable {α : Type} [SoftmaxRegister α]

/-! ### Values -/

/-- The rows of a step in registers. -/
def loadedRows (launch : Launch) (buffers : Buffers α) (operand : Operand) (start : Nat) : List (List α) :=
  (List.range launch.step).map fun offset => launch.loadedRow buffers operand (start + offset)

/-- A row as it is in memory. -/
def storedRow (launch : Launch) (buffers : Buffers α) (operand : Operand) (index : Nat) : List α :=
  (List.range launch.head).map fun dimension => round (launch.kernel.memory operand)
    ((buffers.get operand)[(launch.problem.layout operand).position index dimension]?.getD Scalar.zero)

/-- A row term as it is in memory. -/
def storedTerm (launch : Launch) (buffers : Buffers α) (operand : Operand) (index : Nat) : α :=
  round (launch.kernel.memory operand) ((buffers.get operand)[index]?.getD Scalar.zero)

/-- A row term in a register. -/
def loadedTerm (launch : Launch) (buffers : Buffers α) (operand : Operand) (index : Nat) : α :=
  if launch.rowCount ≤ index then Scalar.zero
  else round (launch.kernel.register operand) (launch.storedTerm buffers operand index)

/-- The softmax of a row after all steps. -/
def rowSoftmax (launch : Launch) (buffers : Buffers α) (index : Nat) : Running α :=
  (launch.stepStarts launch.columnCount).foldl (fun running start =>
    launch.advance running start
      (launch.stepScores (launch.loadedRow buffers .q index) (launch.loadedRows buffers .k start) start)
      (launch.loadedRows buffers .v start)) (Running.start launch.head)

/-- The inner product of a row of the output with its derivative, scaled. -/
def rowProduct (launch : Launch) (buffers : Buffers α) (index : Nat) : α :=
  Scalar.dot (launch.storedRow buffers .dO index) (launch.storedRow buffers .o index) * backwardScale launch.head

/-- A place of the attention matrix in the pass for queries. -/
def queryPair (launch : Launch) (buffers : Buffers α) (row column : Nat) : ScorePair α :=
  launch.recompute (launch.loadedRow buffers .q row) (launch.loadedRow buffers .dO row)
    (launch.loadedRow buffers .k column) (launch.loadedRow buffers .v column) (launch.storedTerm buffers .l row)
    (launch.rowProduct buffers row)

/-- An element of the derivative of a query. -/
def querySum (launch : Launch) (buffers : Buffers α) (row dimension : Nat) : α :=
  launch.columnSum (fun _ => launch.step) (launch.stepStarts launch.columnCount) (fun column =>
    (launch.queryPair buffers row column).derivative * launch.loaded buffers .k column dimension) Scalar.zero

/-- A place of the attention matrix in the pass for keys and values. -/
def keyPair (launch : Launch) (buffers : Buffers α) (column row : Nat) : ScorePair α :=
  launch.recompute (launch.loadedRow buffers .k column) (launch.loadedRow buffers .v column)
    (launch.loadedRow buffers .q row) (launch.loadedRow buffers .dO row) (launch.loadedTerm buffers .l row)
    (launch.loadedTerm buffers .d row)

/-- The places of a step of that pass. -/
def keyPairs (launch : Launch) (buffers : Buffers α) (column start : Nat) : List (ScorePair α) :=
  (List.range launch.step).map fun offset => launch.keyPair buffers column (start + offset)

/-- One step of the sums of the pass for keys and values. -/
def advanceSums (launch : Launch) (buffers : Buffers α) (column : Nat) (sums : KeySums α) (start : Nat) :
    KeySums α where
  value := launch.betweenSteps .dV (accumulateRows (launch.kernel.register .dV) sums.value
    (((launch.keyPairs buffers column start).map (·.probability)).zip (launch.loadedRows buffers .dO start)))
  key :=
    if launch.kernel.descriptor.type.secondary then
      launch.betweenSteps .dK (accumulateRows (launch.kernel.register .dK) sums.key
        (((launch.keyPairs buffers column start).map (·.derivative)).zip (launch.loadedRows buffers .q start)))
    else sums.key

/-- The sums of the pass for keys and values. -/
def keyTotals (launch : Launch) (buffers : Buffers α) (column : Nat) : KeySums α :=
  (launch.stepStarts launch.rowCount).foldl (launch.advanceSums buffers column)
    ⟨List.replicate launch.head Scalar.zero, List.replicate launch.head Scalar.zero⟩

/-! ### The passes compute them -/

/-- Blocks that are not empty, sums in 32 bits, a stride that did not wrap, and room in all buffers. -/
structure Fits (launch : Launch) (buffers : Buffers α) : Prop where
  known : launch.kernel.descriptor.type ∈ KernelType.all
  step : 0 < launch.step
  group : 0 < launch.groupSize
  wide : ∀ operand ∈ launch.kernel.descriptor.type.accumulators.toList, launch.kernel.register operand = .fp32
  stride : launch.columnCount ≤ launch.problem.scoreStride.toNat
  long : ∀ operand ∈ launch.kernel.descriptor.type.operands.toList, operand ≠ .dST →
    (launch.problem.layout operand).size ≤ (buffers.get operand).size
  scores : .dST ∈ launch.kernel.descriptor.type.operands.toList →
    launch.rowCount * launch.problem.scoreStride.toNat ≤ (buffers.get .dST).size

variable {launch : Launch} {buffers held : Buffers α}

omit [SoftmaxRegister α] in
theorem fits_of_check (accepted : Kernel.ofDescriptor launch.kernel.descriptor = .ok launch.kernel)
    (short : launch.problem.Short) (checked : launch.check buffers = .ok ()) : launch.Fits buffers := by
  have made := made_of_ofDescriptor accepted
  have present := check_buffers checked
  refine ⟨KernelType.mem_all made.valid, ?_, ?_, made.wide, ?_, fun operand member => long_of_check present member, ?_⟩
  · exact Nat.pos_of_ne_zero fun none => made.traversal (UInt16.toNat_inj.mp none)
  · exact Nat.pos_of_ne_zero fun none => made.parallelization (UInt16.toNat_inj.mp none)
  · rw [short.toNat_scoreStride]
    unfold columnCount
    omega
  · intro member
    have enough := bufferSize_le_of_check present member
    rw [short.toInt_bufferSize_scores, ← Int.natCast_mul] at enough
    exact Int.ofNat_le.mp enough

omit [SoftmaxRegister α] in
/-- The check looks at nothing but the lengths. -/
theorem check_agrees {changed : List Operand} (agrees : Agrees changed buffers held)
    (checked : launch.check buffers = .ok ()) : launch.check held = .ok () := by
  have same : ∀ operand, BufferDefect.check operand.name (held.get operand) (launch.problem.bufferSize operand) =
      BufferDefect.check operand.name (buffers.get operand) (launch.problem.bufferSize operand) := by
    intro operand
    unfold BufferDefect.check
    rw [agrees.size]
  dsimp only [check, Buffers.check] at checked ⊢
  rw [funext same]
  exact checked

omit [SoftmaxRegister α] in
theorem Fits.agrees {changed : List Operand} (fits : launch.Fits buffers) (agrees : Agrees changed buffers held) :
    launch.Fits held :=
  { fits with
    long := fun operand member matrix => by
      rw [agrees.size]
      exact fits.long operand member matrix
    scores := fun member => by
      rw [agrees.size]
      exact fits.scores member }

omit [SoftmaxRegister α] in
/-- Whatever a pass has written, its inputs are as they were. -/
theorem Fits.get_input (fits : launch.Fits buffers)
    (agrees : Agrees launch.kernel.descriptor.type.results buffers held) :
    ∀ operand ∈ launch.kernel.descriptor.type.inputs, held.get operand = buffers.get operand :=
  fun operand input => agrees.kept operand (KernelType.of_mem_inputs fits.known input).2.2

section Equations

variable (fits : launch.Fits buffers)
include fits

omit [SoftmaxRegister α] in
theorem Fits.long_input {operand : Operand} (input : operand ∈ launch.kernel.descriptor.type.inputs) :
    (launch.problem.layout operand).size ≤ (buffers.get operand).size := by
  obtain ⟨bound, matrix, -⟩ := KernelType.of_mem_inputs fits.known input
  exact fits.long operand bound matrix

theorem Fits.loadRow_eq (operand : Operand) (input : operand ∈ launch.kernel.descriptor.type.inputs)
    (isHead : (launch.problem.layout operand).head = launch.head) (index : Nat) :
    launch.loadRow buffers operand index = .ok (launch.loadedRow buffers operand index) :=
  loadRow_eq_loadedRow operand isHead (fits.long_input input) index

theorem Fits.loadRows_eq (operand : Operand) (input : operand ∈ launch.kernel.descriptor.type.inputs)
    (isHead : (launch.problem.layout operand).head = launch.head) (start : Nat) :
    launch.loadRows buffers operand start = .ok (launch.loadedRows buffers operand start) :=
  mapM_eq_ok_map _ _ _ fun offset _ => fits.loadRow_eq operand input isHead (start + offset)

theorem Fits.readCell_eq (operand : Operand) (input : operand ∈ launch.kernel.descriptor.type.inputs)
    (isVector : launch.problem.layout operand = ⟨launch.rowCount, 1, false⟩) {index : Nat}
    (inside : index < launch.rowCount) :
    readCell (buffers.get operand) index = .ok ((buffers.get operand)[index]?.getD Scalar.zero) := by
  have long := fits.long_input input
  rw [isVector, Layout.size, Nat.mul_one] at long
  obtain ⟨value, found, read⟩ := readCell_total (Nat.lt_of_lt_of_le inside long)
  rw [read, found]
  rfl

theorem Fits.loadRowTerm_eq (operand : Operand) (input : operand ∈ launch.kernel.descriptor.type.inputs)
    (isVector : launch.problem.layout operand = ⟨launch.rowCount, 1, false⟩) (index : Nat) :
    launch.loadRowTerm buffers operand index = .ok (launch.loadedTerm buffers operand index) := by
  unfold loadRowTerm loadedTerm
  split
  · rfl
  · rename_i inside
    rw [fits.readCell_eq operand input isVector (Nat.not_le.mp inside)]
    rfl

theorem Fits.forwardRow_eq (isForward : launch.kernel.descriptor.type.pass = .forward) (index : Nat) :
    launch.forwardRow buffers index = .ok (launch.rowSoftmax buffers index) := by
  have inputs := KernelType.inputs_forward isForward
  have query := fits.loadRow_eq .q (by simp [inputs]) rfl index
  rw [forwardRow, query, ok_bind]
  refine foldlM_eq_ok_foldl _ _ _ _ fun start _ running => ?_
  have keys := fits.loadRows_eq .k (by simp [inputs]) rfl start
  have values := fits.loadRows_eq .v (by simp [inputs]) rfl start
  rw [keys, ok_bind, values, ok_bind]
  rfl

theorem Fits.rowTerm_eq (isQuery : launch.kernel.descriptor.type.pass = .backwardQuery) {index : Nat}
    (inside : index < launch.rowCount) :
    launch.rowTerm buffers index = .ok (launch.rowProduct buffers index) := by
  have inputs := KernelType.mem_inputs_query isQuery
  have derivative := row_eq .dO rfl (fits.long_input inputs.2) inside
  have output := row_eq .o rfl (fits.long_input inputs.1) inside
  rw [rowTerm, derivative, ok_bind, output, ok_bind, List.map_map, List.map_map]
  rfl

omit [SoftmaxRegister α] in
theorem Fits.ready (isQuery : launch.kernel.descriptor.type = ⟨.backwardQuery, true⟩) : launch.Ready buffers := by
  refine ⟨fits.step, fits.group, fits.wide .dQ (by rw [isQuery]; decide), ?_⟩
  intro operand member
  refine fits.long operand ?_ ?_
  · rw [isQuery]
    revert operand
    decide
  · revert operand
    decide

theorem Fits.queryDerivative_eq (isQuery : launch.kernel.descriptor.type = ⟨.backwardQuery, true⟩) {index : Nat}
    (inside : index < launch.rowCount) :
    launch.queryDerivative buffers index (launch.rowProduct buffers index) =
      .ok ((List.range launch.head).map (launch.querySum buffers index)) := by
  have input : .l ∈ launch.kernel.descriptor.type.inputs := by
    rw [isQuery]
    decide
  have found := fits.readCell_eq .l input rfl inside
  exact (queryDerivative_eq_over ..).trans ((fits.ready isQuery).queryDerivativeOver_eq found _ _)

theorem Fits.keyStep_eq (isKey : launch.kernel.descriptor.type.pass = .backwardKeyValue) (column start : Nat) :
    launch.keyStep buffers (launch.loadedRow buffers .k column) (launch.loadedRow buffers .v column) start
      (launch.loadedRows buffers .q start) (launch.loadedRows buffers .dO start) =
        .ok (launch.keyPairs buffers column start) := by
  have inputs := KernelType.inputs_keyValue isKey
  unfold keyStep loadedRows
  rw [List.zip_map', zipIdx_map_range, List.mapM_map]
  refine mapM_eq_ok_map _ _ _ fun offset _ => ?_
  have logSum := fits.loadRowTerm_eq .l (by simp [inputs]) rfl (start + offset)
  have rowTerm := fits.loadRowTerm_eq .d (by simp [inputs]) rfl (start + offset)
  simp only [Function.comp_apply, logSum, rowTerm, ok_bind]
  rfl

end Equations

/-! ### Steps cover the sequence, and every row is full -/

omit [SoftmaxRegister α] in
/-- The steps over a sequence, one after the other, go through it and maybe beyond. -/
theorem flatMap_stepStarts (launch : Launch) (length : Nat) :
    (launch.stepStarts length).flatMap (fun start => (List.range launch.step).map (start + ·)) =
      List.range ((length + launch.step - 1) / launch.step * launch.step) := by
  unfold stepStarts
  rw [List.flatMap_map]
  generalize (length + launch.step - 1) / launch.step = count
  induction count with
  | zero => rw [Nat.zero_mul]; rfl
  | succ count ih => rw [List.range_succ, List.flatMap_append, ih, Nat.succ_mul, List.range_add, List.flatMap_singleton]

theorem length_loadedRow (launch : Launch) (buffers : Buffers α) (operand : Operand) (index : Nat) :
    (launch.loadedRow buffers operand index).length = launch.head := by
  rw [loadedRow, List.length_map, List.length_range]

theorem length_betweenSteps (launch : Launch) (operand : Operand) (values : List α) :
    (launch.betweenSteps operand values).length = values.length := by
  rw [betweenSteps_eq_map, List.length_map]

/-- A step over some rows leaves a full row of sums full. -/
theorem length_accumulated (launch : Launch) (buffers : Buffers α) (sum operand : Operand) {held : List α}
    (full : held.length = launch.head) (weights : List α) (start : Nat) :
    (accumulateRows (launch.kernel.register sum) held (weights.zip (launch.loadedRows buffers operand start))).length =
      launch.head := by
  rw [length_accumulateRows, full]
  rintro ⟨weight, row⟩ member
  obtain ⟨offset, -, rfl⟩ := List.mem_map.mp (List.of_mem_zip member).2
  exact (launch.length_loadedRow ..).trans full.symm

theorem length_rowSoftmax (launch : Launch) (buffers : Buffers α) (index : Nat) :
    (launch.rowSoftmax buffers index).output.length = launch.head := by
  refine List.foldlRecOn _ _ (motive := fun running : Running α => running.output.length = launch.head)
    (List.length_replicate ..) ?_
  intro running full start _
  dsimp only [advance]
  rw [length_betweenSteps, apply_ite List.length, scaleRow, List.length_map, ite_self, length_accumulated]
  split
  · exact full
  · exact (List.length_map _).trans full

theorem length_keyTotals (launch : Launch) (buffers : Buffers α) (column : Nat) :
    (launch.keyTotals buffers column).value.length = launch.head ∧
      (launch.keyTotals buffers column).key.length = launch.head := by
  refine List.foldlRecOn _ _
    (motive := fun sums : KeySums α => sums.value.length = launch.head ∧ sums.key.length = launch.head)
    ⟨List.length_replicate .., List.length_replicate ..⟩ ?_
  intro sums full start _
  dsimp only [advanceSums]
  rw [length_betweenSteps, length_accumulated launch buffers _ _ full.1]
  refine ⟨rfl, ?_⟩
  split
  · rw [length_betweenSteps, length_accumulated launch buffers _ _ full.2]
  · exact full.2

/-! ### Rows depend on the inputs and the numerics of the kernel only -/

section Loads

variable {first second : Launch} {operand : Operand} (problem : first.problem = second.problem)
  (memory : first.kernel.memory operand = second.kernel.memory operand)
  (register : first.kernel.register operand = second.kernel.register operand)
  (same : held.get operand = buffers.get operand)
include memory same

theorem storedTerm_congr : first.storedTerm held operand = second.storedTerm buffers operand := by
  funext index
  unfold storedTerm
  rw [memory, same]

include problem

theorem storedRow_congr : first.storedRow held operand = second.storedRow buffers operand := by
  funext index
  unfold storedRow head
  rw [problem, memory, same]

include register

theorem loaded_congr : first.loaded held operand = second.loaded buffers operand := by
  funext index dimension
  unfold loaded fromMemory
  rw [problem, memory, register, same]

theorem loadedRow_congr : first.loadedRow held operand = second.loadedRow buffers operand := by
  funext index
  unfold loadedRow head
  rw [loaded_congr problem memory register same, problem]

theorem loadedTerm_congr : first.loadedTerm held operand = second.loadedTerm buffers operand := by
  funext index
  unfold loadedTerm rowCount
  rw [problem, register, storedTerm_congr memory same]

end Loads

/-- Two launches that round and step alike. Which rows a threadgroup owns, where operands are staged and which inputs
    are kept in registers is left open. -/
structure Alike (first second : Launch) : Prop where
  problem : first.problem = second.problem
  type : first.kernel.descriptor.type = second.kernel.descriptor.type
  step : first.step = second.step
  memory : first.kernel.memory = second.kernel.memory
  register : first.kernel.register = second.kernel.register
  cached : ∀ operand ∈ second.kernel.descriptor.type.accumulators.toList,
    first.kernel.isCached operand = second.kernel.isCached operand

namespace Alike

theorem refl (launch : Launch) : launch.Alike launch :=
  ⟨rfl, rfl, rfl, rfl, rfl, fun _ _ => rfl⟩

variable {first second : Launch} (alike : first.Alike second)
include alike

theorem head : first.head = second.head := by
  unfold Launch.head
  rw [alike.problem]

theorem rowCount : first.rowCount = second.rowCount := by
  unfold Launch.rowCount
  rw [alike.problem]

theorem columnCount : first.columnCount = second.columnCount := by
  unfold Launch.columnCount
  rw [alike.problem]

theorem stepStarts (length : Nat) : first.stepStarts length = second.stepStarts length := by
  unfold Launch.stepStarts
  rw [alike.step]

theorem parallelCount : first.parallelCount = second.parallelCount := by
  unfold Launch.parallelCount
  rw [alike.type, alike.rowCount, alike.columnCount]

theorem fromMemory (operand : Operand) : (first.fromMemory operand : α → α) = second.fromMemory operand := by
  funext value
  unfold Launch.fromMemory
  rw [alike.memory, alike.register]

theorem between {operand : Operand} (sum : operand ∈ second.kernel.descriptor.type.accumulators.toList) :
    (first.between operand : α → α) = second.between operand := by
  funext value
  unfold Launch.between
  rw [alike.cached operand sum, alike.fromMemory]

theorem betweenSteps {operand : Operand} (sum : operand ∈ second.kernel.descriptor.type.accumulators.toList) :
    (first.betweenSteps operand : List α → List α) = second.betweenSteps operand := by
  funext values
  rw [betweenSteps_eq_map, betweenSteps_eq_map, alike.between sum]

theorem recompute (kept keptDerivative stepped steppedDerivative : List α) (logSum rowTerm : α) :
    first.recompute kept keptDerivative stepped steppedDerivative logSum rowTerm =
      second.recompute kept keptDerivative stepped steppedDerivative logSum rowTerm := by
  unfold Launch.recompute
  rw [alike.register, alike.head]

theorem stepScores (query : List α) (keys : List (List α)) (start : Nat) :
    first.stepScores query keys start = second.stepScores query keys start := by
  unfold Launch.stepScores
  rw [alike.register, alike.columnCount]

theorem advance (sum : .o ∈ second.kernel.descriptor.type.accumulators.toList) (running : Running α) (start : Nat)
    (scores : List α) (values : List (List α)) :
    first.advance running start scores values = second.advance running start scores values := by
  unfold Launch.advance
  rw [alike.register, alike.head, alike.columnCount, alike.step, alike.betweenSteps sum]

variable {held buffers : Buffers α}

section Loads

variable {operand : Operand} (same : held.get operand = buffers.get operand)
include same

theorem loaded : first.loaded held operand = second.loaded buffers operand :=
  loaded_congr alike.problem (congrFun alike.memory operand) (congrFun alike.register operand) same

theorem loadedRow : first.loadedRow held operand = second.loadedRow buffers operand :=
  loadedRow_congr alike.problem (congrFun alike.memory operand) (congrFun alike.register operand) same

theorem loadedRows : first.loadedRows held operand = second.loadedRows buffers operand := by
  funext start
  unfold Launch.loadedRows
  rw [alike.loadedRow same, alike.step]

theorem storedRow : first.storedRow held operand = second.storedRow buffers operand :=
  storedRow_congr alike.problem (congrFun alike.memory operand) same

theorem storedTerm : first.storedTerm held operand = second.storedTerm buffers operand :=
  storedTerm_congr (congrFun alike.memory operand) same

theorem loadedTerm : first.loadedTerm held operand = second.loadedTerm buffers operand :=
  loadedTerm_congr alike.problem (congrFun alike.memory operand) (congrFun alike.register operand) same

end Loads

variable (same : ∀ operand ∈ second.kernel.descriptor.type.inputs, held.get operand = buffers.get operand)
include same

theorem rowSoftmax (isForward : second.kernel.descriptor.type.pass = .forward) :
    first.rowSoftmax held = second.rowSoftmax buffers := by
  have inputs := KernelType.inputs_forward isForward
  have sum : .o ∈ second.kernel.descriptor.type.accumulators.toList := by
    rw [KernelType.accumulators, if_pos isForward]
    decide
  funext index
  unfold Launch.rowSoftmax
  rw [alike.stepStarts, alike.columnCount, alike.head, alike.loadedRow (same .q (by simp [inputs])),
    alike.loadedRows (same .k (by simp [inputs])), alike.loadedRows (same .v (by simp [inputs]))]
  simp only [alike.stepScores, alike.advance sum]

theorem rowProduct (isQuery : second.kernel.descriptor.type.pass = .backwardQuery) :
    first.rowProduct held = second.rowProduct buffers := by
  have inputs := KernelType.mem_inputs_query isQuery
  funext index
  unfold Launch.rowProduct
  rw [alike.storedRow (same .dO inputs.2), alike.storedRow (same .o inputs.1), alike.head]

section Queries

variable (isQuery : second.kernel.descriptor.type = ⟨.backwardQuery, true⟩)
include isQuery

theorem queryPair : first.queryPair held = second.queryPair buffers := by
  have inputs : second.kernel.descriptor.type.inputs = [.q, .k, .v, .o, .l, .dO] := by rw [isQuery]; rfl
  funext row column
  unfold Launch.queryPair
  rw [alike.recompute, alike.loadedRow (same .q (by simp [inputs])), alike.loadedRow (same .dO (by simp [inputs])),
    alike.loadedRow (same .k (by simp [inputs])), alike.loadedRow (same .v (by simp [inputs])),
    alike.storedTerm (same .l (by simp [inputs])), alike.rowProduct same (by rw [isQuery])]

theorem querySum : first.querySum held = second.querySum buffers := by
  have key : .k ∈ second.kernel.descriptor.type.inputs := by rw [isQuery]; decide
  have sum : .dQ ∈ second.kernel.descriptor.type.accumulators.toList := by rw [isQuery]; decide
  funext row dimension
  unfold Launch.querySum Launch.columnSum
  rw [alike.stepStarts, alike.columnCount, alike.between sum, alike.register, alike.step,
    alike.queryPair same isQuery, alike.loaded (same .k key)]

end Queries

section Keys

variable (isKey : second.kernel.descriptor.type.pass = .backwardKeyValue)
include isKey

theorem keyPair : first.keyPair held = second.keyPair buffers := by
  have inputs := KernelType.inputs_keyValue isKey
  funext column row
  unfold Launch.keyPair
  rw [alike.recompute, alike.loadedRow (same .q (by simp [inputs])), alike.loadedRow (same .dO (by simp [inputs])),
    alike.loadedRow (same .k (by simp [inputs])), alike.loadedRow (same .v (by simp [inputs])),
    alike.loadedTerm (same .l (by simp [inputs])), alike.loadedTerm (same .d (by simp [inputs]))]

theorem advanceSums : first.advanceSums held = second.advanceSums buffers := by
  have inputs := KernelType.inputs_keyValue isKey
  funext column sums start
  unfold Launch.advanceSums Launch.keyPairs
  rw [alike.keyPair same isKey, alike.loadedRows (same .q (by simp [inputs])),
    alike.loadedRows (same .dO (by simp [inputs])), alike.step, alike.register, alike.type,
    alike.betweenSteps (KernelType.mem_accumulators_dV isKey)]
  congr 1
  split
  · rename_i secondary
    rw [alike.betweenSteps (KernelType.mem_accumulators_dK isKey secondary)]
  · rfl

theorem keyTotals : first.keyTotals held = second.keyTotals buffers := by
  funext column
  unfold Launch.keyTotals
  rw [alike.advanceSums same isKey, alike.stepStarts, alike.rowCount, alike.head]

end Keys

end Alike

/-! ### Loads during a run -/

section During

variable (fits : launch.Fits buffers) (agrees : Agrees launch.kernel.descriptor.type.results buffers held)
  (operand : Operand) (input : operand ∈ launch.kernel.descriptor.type.inputs)
  (isHead : (launch.problem.layout operand).head = launch.head)
include fits agrees input isHead

/-- Whatever rows were stored before, a row of an input is what it was at the start. -/
theorem Fits.loadRow_during (index : Nat) :
    launch.loadRow held operand index = .ok (launch.loadedRow buffers operand index) := by
  rw [← (Alike.refl launch).loadedRow (fits.get_input agrees operand input)]
  exact (fits.agrees agrees).loadRow_eq operand input isHead index

theorem Fits.loadRows_during (start : Nat) :
    launch.loadRows held operand start = .ok (launch.loadedRows buffers operand start) := by
  rw [← (Alike.refl launch).loadedRows (fits.get_input agrees operand input)]
  exact (fits.agrees agrees).loadRows_eq operand input isHead start

end During

theorem Fits.keyStep_during (fits : launch.Fits buffers)
    (agrees : Agrees launch.kernel.descriptor.type.results buffers held)
    (isKey : launch.kernel.descriptor.type.pass = .backwardKeyValue) (column start : Nat) :
    launch.keyStep held (launch.loadedRow buffers .k column) (launch.loadedRow buffers .v column) start
      (launch.loadedRows buffers .q start) (launch.loadedRows buffers .dO start) =
        .ok (launch.keyPairs buffers column start) := by
  have inputs := KernelType.inputs_keyValue isKey
  have same := fits.get_input agrees
  have alike := Alike.refl launch
  rw [keyPairs, ← alike.keyPair same isKey, ← alike.loadedRow (same .k (by simp [inputs])),
    ← alike.loadedRow (same .v (by simp [inputs])), ← alike.loadedRows (same .q (by simp [inputs])),
    ← alike.loadedRows (same .dO (by simp [inputs]))]
  exact (fits.agrees agrees).keyStep_eq isKey column start

end Launch

end KernelForge.Attention
