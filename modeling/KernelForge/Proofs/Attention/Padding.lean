import KernelForge.Proofs.SignedZero
import KernelForge.Proofs.Attention.Emission
import KernelForge.Proofs.Attention.Formula

/-!
Columns behind the end in the pass for queries, in single precision. The last step over the input sequence reads rows
of zeros for the columns that are not there, and nothing masks them: they get a probability and a derivative of their
score like all others, the same for each of them. Times a row of zeros it vanishes as long as it is finite. When it is
not, which takes no more than a row whose scores are all far below zero, every element of the derivative of the query
is lost, however harmless the columns that are there.
-/

namespace KernelForge.Attention

open Buffers Register SoftmaxRegister

/-- Every buffer that was checked is as long as it should be. -/
theorem Buffers.bufferSize_le_of_check {α : Type} {buffers : Buffers α} {problem : Problem} {operands : List Operand}
    (checked : buffers.check problem operands = .ok ()) {operand : Operand} (member : operand ∈ operands) :
    (problem.bufferSize operand).toInt ≤ (buffers.get operand).size := by
  simp only [check] at checked
  split at checked
  · rename_i none
    have passed := List.flatMap_eq_nil_iff.mp (List.isEmpty_iff.mp none) operand member
    unfold BufferDefect.check at passed
    split at passed
    · cases passed
    · omega
  · cases checked

theorem Buffers.long_of_check {α : Type} {buffers : Buffers α} {problem : Problem} {operands : List Operand}
    (checked : buffers.check problem operands = .ok ()) {operand : Operand} (member : operand ∈ operands)
    (matrix : operand ≠ .dST) : (problem.layout operand).size ≤ (buffers.get operand).size := by
  have enough := bufferSize_le_of_check checked member
  rw [toInt_bufferSize problem matrix] at enough
  omega

namespace Launch

section Rows

variable {α : Type} [SoftmaxRegister α]

/-- An element of a matrix in a register. Behind the end of the sequence it is zero. -/
def loaded (launch : Launch) (buffers : Buffers α) (operand : Operand) (index dimension : Nat) : α :=
  if (launch.problem.layout operand).length ≤ index then Scalar.zero
  else launch.fromMemory operand
    ((buffers.get operand)[(launch.problem.layout operand).position index dimension]?.getD Scalar.zero)

/-- A row of such elements. -/
def loadedRow (launch : Launch) (buffers : Buffers α) (operand : Operand) (index : Nat) : List α :=
  (List.range launch.head).map (launch.loaded buffers operand index)

/-- The columns of a step that are there. -/
def present (launch : Launch) (start : Nat) : Nat :=
  min launch.step (launch.columnCount - start)

/-- Takes some columns, from a first one on, into the derivative of a query. -/
def advanceQuery (launch : Launch) (buffers : Buffers α) (query outputDerivative : List α) (logSum rowTerm : α)
    (start count : Nat) (held : List α) : Except Failure (List α) := do
  let keys ← (List.range count).mapM fun offset => launch.loadRow buffers .k (start + offset)
  let values ← (List.range count).mapM fun offset => launch.loadRow buffers .v (start + offset)
  let pairs := launch.queryStep query outputDerivative logSum rowTerm keys values
  return launch.betweenSteps .dQ
    (accumulateRows (launch.kernel.register .dQ) held ((pairs.map (·.derivative)).zip keys))

/-- The derivative of a query over as many columns of each step as asked for. -/
def queryDerivativeOver (launch : Launch) (columns : Nat → Nat) (buffers : Buffers α) (index : Nat) (rowTerm : α) :
    Except Failure (List α) := do
  let logSum := round (launch.kernel.memory .l) (← readCell (buffers.get .l) index)
  let query ← launch.loadRow buffers .q index
  let outputDerivative ← launch.loadRow buffers .dO index
  (launch.stepStarts launch.columnCount).foldlM (fun held start =>
    launch.advanceQuery buffers query outputDerivative logSum rowTerm start (columns start) held)
    (List.replicate launch.head Scalar.zero)

/-- The pass takes every step whole. -/
theorem queryDerivative_eq_over (launch : Launch) (buffers : Buffers α) (index : Nat) (rowTerm : α) :
    launch.queryDerivative buffers index rowTerm =
      launch.queryDerivativeOver (fun _ => launch.step) buffers index rowTerm := rfl

/-- The derivative of the score of a column that is not there. -/
def absentDerivative (launch : Launch) (buffers : Buffers α) (index : Nat) (rowTerm : α) : Except Failure α := do
  let logSum := round (launch.kernel.memory .l) (← readCell (buffers.get .l) index)
  let query ← launch.loadRow buffers .q index
  let outputDerivative ← launch.loadRow buffers .dO index
  let zeros := List.replicate launch.head Scalar.zero
  return (launch.recompute query outputDerivative zeros zeros logSum rowTerm).derivative

/-- A number between two steps. -/
def between (launch : Launch) (operand : Operand) (value : α) : α :=
  if launch.kernel.isCached operand then value else launch.fromMemory operand value

theorem betweenSteps_eq_map (launch : Launch) (operand : Operand) (values : List α) :
    launch.betweenSteps operand values = values.map (launch.between operand) := by
  unfold betweenSteps between
  split
  · exact (List.map_id values).symm
  · rfl

/-- The derivative of the score of a column. -/
def columnDerivative (launch : Launch) (buffers : Buffers α) (index : Nat) (logSum rowTerm : α) (column : Nat) : α :=
  (launch.recompute (launch.loadedRow buffers .q index) (launch.loadedRow buffers .dO index)
    (launch.loadedRow buffers .k column) (launch.loadedRow buffers .v column) logSum rowTerm).derivative

/-- Terms of columns added up along the steps. -/
def columnSum (launch : Launch) (columns : Nat → Nat) (starts : List Nat) (term : Nat → α) (register : α) : α :=
  starts.foldl (fun held start => launch.between .dQ (accumulate (launch.kernel.register .dQ) held
    ((List.range (columns start)).map fun offset => term (start + offset)))) register

variable {launch : Launch} {buffers : Buffers α}

/-- What the pass for queries starts from: blocks that are not empty, a sum in 32 bits, and room in all buffers. -/
structure Ready (launch : Launch) (buffers : Buffers α) : Prop where
  step : 0 < launch.step
  group : 0 < launch.groupSize
  single : launch.kernel.register .dQ = .fp32
  long : ∀ operand ∈ [Operand.q, .k, .v, .o, .l, .dO, .d, .dQ],
    (launch.problem.layout operand).size ≤ (buffers.get operand).size

omit [SoftmaxRegister α] in
/-- A launch that was checked has all its buffers. -/
theorem check_buffers (checked : launch.check buffers = .ok ()) :
    buffers.check launch.problem launch.kernel.descriptor.type.operands.toList = .ok () := by
  dsimp only [check] at checked
  split at checked
  · cases checked
  · split at checked
    · cases checked
    · obtain ⟨_, held, _⟩ := bind_ok_iff.mp checked
      exact held

omit [SoftmaxRegister α] in
theorem ready_of_check (accepted : Kernel.ofDescriptor launch.kernel.descriptor = .ok launch.kernel)
    (isQuery : launch.kernel.descriptor.type = ⟨.backwardQuery, true⟩) (checked : launch.check buffers = .ok ()) :
    launch.Ready buffers := by
  have made := made_of_ofDescriptor accepted
  refine ⟨?_, ?_, made.wide .dQ (by rw [isQuery]; decide), ?_⟩
  · exact Nat.pos_of_ne_zero fun none => made.traversal (UInt16.toNat_inj.mp none)
  · exact Nat.pos_of_ne_zero fun none => made.parallelization (UInt16.toNat_inj.mp none)
  · have held := check_buffers checked
    rw [isQuery] at held
    intro operand member
    refine long_of_check held ?_ ?_
    · revert operand
      decide
    · revert operand
      decide

/-- Behind the end of a sequence all rows are zeros. -/
theorem loadedRow_beyond (buffers : Buffers α) {operand : Operand} {index : Nat}
    (beyond : (launch.problem.layout operand).length ≤ index) :
    launch.loadedRow buffers operand index = List.replicate launch.head Scalar.zero := by
  have zeros : launch.loaded buffers operand index = fun _ => Scalar.zero := funext fun _ => if_pos beyond
  rw [loadedRow, zeros, List.map_const', List.length_range]

theorem row_eq (operand : Operand) (isHead : (launch.problem.layout operand).head = launch.head)
    (long : (launch.problem.layout operand).size ≤ (buffers.get operand).size) {index : Nat}
    (inside : index < (launch.problem.layout operand).length) :
    buffers.row launch.problem operand index = .ok ((List.range launch.head).map fun dimension =>
      (buffers.get operand)[(launch.problem.layout operand).position index dimension]?.getD Scalar.zero) := by
  simp only [Buffers.row, isHead]
  refine mapM_eq_ok_map _ _ _ fun dimension member => readCell_ok ?_
  have within := Nat.lt_of_lt_of_le (Layout.position_lt inside (isHead.symm ▸ List.mem_range.mp member)) long
  rw [Array.getElem?_eq_getElem within]
  rfl

theorem loadRow_eq_loadedRow (operand : Operand) (isHead : (launch.problem.layout operand).head = launch.head)
    (long : (launch.problem.layout operand).size ≤ (buffers.get operand).size) (index : Nat) :
    launch.loadRow buffers operand index = .ok (launch.loadedRow buffers operand index) := by
  unfold loadRow
  split
  · rename_i beyond
    rw [loadedRow_beyond buffers beyond]
    rfl
  · rename_i inside
    have same : launch.loaded buffers operand index = fun dimension => launch.fromMemory operand
        ((buffers.get operand)[(launch.problem.layout operand).position index dimension]?.getD Scalar.zero) :=
      funext fun _ => if_neg inside
    rw [row_eq operand isHead long (Nat.not_le.mp inside), loadedRow, same, ok_bind, List.map_map]
    rfl

variable (ready : launch.Ready buffers)
include ready

theorem Ready.loadRow_eq (operand : Operand) (member : operand ∈ [Operand.q, .k, .v, .dO]) (index : Nat) :
    launch.loadRow buffers operand index = .ok (launch.loadedRow buffers operand index) := by
  simp only [List.mem_cons, List.not_mem_nil, or_false] at member
  rcases member with rfl | rfl | rfl | rfl
  · exact loadRow_eq_loadedRow .q rfl (ready.long .q (by simp)) index
  · exact loadRow_eq_loadedRow .k rfl (ready.long .k (by simp)) index
  · exact loadRow_eq_loadedRow .v rfl (ready.long .v (by simp)) index
  · exact loadRow_eq_loadedRow .dO rfl (ready.long .dO (by simp)) index

/-- A step sums each element on its own. -/
theorem Ready.advanceQuery_eq (index : Nat) (logSum rowTerm : α) (start count : Nat) (register : Nat → α) :
    launch.advanceQuery buffers (launch.loadedRow buffers .q index) (launch.loadedRow buffers .dO index) logSum rowTerm
      start count ((List.range launch.head).map register) = .ok ((List.range launch.head).map fun x =>
        launch.between .dQ (accumulate (launch.kernel.register .dQ) (register x) ((List.range count).map fun offset =>
          launch.columnDerivative buffers index logSum rowTerm (start + offset) *
            launch.loaded buffers .k (start + offset) x))) := by
  have keys := mapM_eq_ok_map _ _ (List.range count) fun offset _ => ready.loadRow_eq .k (by simp) (start + offset)
  have values := mapM_eq_ok_map _ _ (List.range count) fun offset _ => ready.loadRow_eq .v (by simp) (start + offset)
  have summed := accumulateRows_map (launch.kernel.register .dQ) launch.head register
    (fun offset => launch.columnDerivative buffers index logSum rowTerm (start + offset))
    (fun offset => launch.loaded buffers .k (start + offset)) (List.range count)
  rw [Launch.advanceQuery, keys, ok_bind, values, ok_bind, queryStep, List.zipWith_map, List.zipWith_self]
  refine congrArg Except.ok ?_
  rw [betweenSteps_eq_map, List.map_map, List.zip_map']
  refine (congrArg (List.map (launch.between .dQ)) summed).trans ?_
  rw [List.map_map]
  rfl

theorem Ready.queryDerivativeOver_eq {index : Nat} {logSum : α} (found : readCell (buffers.get .l) index = .ok logSum)
    (columns : Nat → Nat) (rowTerm : α) :
    launch.queryDerivativeOver columns buffers index rowTerm = .ok ((List.range launch.head).map fun x =>
      launch.columnSum columns (launch.stepStarts launch.columnCount) (fun column =>
        launch.columnDerivative buffers index (round (launch.kernel.memory .l) logSum) rowTerm column *
          launch.loaded buffers .k column x) Scalar.zero) := by
  have along : ∀ (starts : List Nat) (register : Nat → α),
      starts.foldlM (fun held start =>
        launch.advanceQuery buffers (launch.loadedRow buffers .q index) (launch.loadedRow buffers .dO index)
          (round (launch.kernel.memory .l) logSum) rowTerm start (columns start) held)
        ((List.range launch.head).map register) = .ok ((List.range launch.head).map fun x =>
          launch.columnSum columns starts (fun column =>
            launch.columnDerivative buffers index (round (launch.kernel.memory .l) logSum) rowTerm column *
              launch.loaded buffers .k column x) (register x)) := by
    intro starts
    induction starts with
    | nil => exact fun _ => rfl
    | cons start rest ih =>
      intro register
      rw [List.foldlM_cons, ready.advanceQuery_eq, ok_bind, ih]
      rfl
  have whole := along (launch.stepStarts launch.columnCount) fun _ => Scalar.zero
  rw [List.map_const', List.length_range] at whole
  have query := ready.loadRow_eq .q (by simp) index
  have outputDerivative := ready.loadRow_eq .dO (by simp) index
  rw [Launch.queryDerivativeOver, found, ok_bind, query, ok_bind, outputDerivative, ok_bind]
  exact whole

theorem Ready.rowTerm_total {index : Nat} (inside : index < launch.rowCount) :
    ∃ term, launch.rowTerm buffers index = .ok term := by
  have derivative := row_eq .dO rfl (ready.long .dO (by simp)) inside
  have output := row_eq .o rfl (ready.long .o (by simp)) inside
  rw [Launch.rowTerm, derivative, ok_bind, output, ok_bind]
  exact ⟨_, rfl⟩

/-- All columns behind the end are alike. -/
theorem Ready.absentDerivative_eq {index : Nat} {logSum : α} (found : readCell (buffers.get .l) index = .ok logSum)
    (rowTerm : α) {column : Nat} (beyond : launch.columnCount ≤ column) :
    launch.absentDerivative buffers index rowTerm =
      .ok (launch.columnDerivative buffers index (round (launch.kernel.memory .l) logSum) rowTerm column) := by
  have keys : launch.loadedRow buffers .k column = _ := loadedRow_beyond buffers beyond
  have values : launch.loadedRow buffers .v column = _ := loadedRow_beyond buffers beyond
  have query := ready.loadRow_eq .q (by simp) index
  have outputDerivative := ready.loadRow_eq .dO (by simp) index
  rw [Launch.absentDerivative, found, ok_bind, query, ok_bind, outputDerivative, ok_bind, columnDerivative, keys,
    values]
  rfl

end Rows

section Columns

open Single

variable {launch : Launch}

theorem between_same (operand : Operand) {first second : Float32} (same : Same first second) :
    Same (launch.between operand first) (launch.between operand second) := by
  unfold between
  split
  · exact same
  · exact Precision.round_same _ (Precision.round_same _ same)

theorem isNaN_between (operand : Operand) {value : Float32} (nan : value.isNaN = true) :
    (launch.between operand value).isNaN = true := by
  unfold between
  split
  · exact nan
  · exact Precision.isNaN_round _ (Precision.isNaN_round _ nan)

/-- A step is the columns that are there and those that are not. -/
theorem map_range_step (launch : Launch) (start : Nat) (term : Nat → Float32) :
    (List.range launch.step).map (fun offset => term (start + offset)) =
      (List.range (launch.present start)).map (fun offset => term (start + offset)) ++
        (List.range (launch.step - launch.present start)).map fun offset =>
          term (start + (launch.present start + offset)) := by
  have split : launch.step = launch.present start + (launch.step - launch.present start) := by
    unfold present
    omega
  rw [split, List.range_add, List.map_append, List.map_map, ← split]
  rfl

/-- Columns whose terms are zeros can be left out. -/
theorem columnSum_same (single : launch.kernel.register .dQ = .fp32) {starts : List Nat} {term : Nat → Float32}
    (isZero : ∀ start ∈ starts, ∀ offset < launch.step, launch.columnCount ≤ start + offset →
      (term (start + offset) == 0) = true) (register : Float32) :
    Same (launch.columnSum (fun _ => launch.step) starts term register)
      (launch.columnSum launch.present starts term register) := by
  refine List.foldl_rel (.refl register) ?_
  intro start member first second same
  rw [single, map_range_step]
  refine between_same .dQ (accumulate_append_zeros ?_ _ same)
  intro value found
  obtain ⟨offset, inside, rfl⟩ := List.mem_map.mp found
  have below := List.mem_range.mp inside
  unfold present at below ⊢
  exact isZero start member _ (by omega) (by omega)

/-- A sequence that does not divide into steps has a last one that is not full. -/
theorem stepStarts_eq_append (positive : 0 < launch.step) {length : Nat} (uneven : ¬ launch.step ∣ length) :
    launch.stepStarts length =
      launch.stepStarts (length - length % launch.step) ++ [length - length % launch.step] := by
  have rest := Nat.mod_lt length positive
  have some := Nat.emod_pos_of_not_dvd uneven
  have parts := Nat.div_add_mod' length launch.step
  have full : length - length % launch.step = length / launch.step * launch.step := by omega
  have steps : (length + launch.step - 1) / launch.step = length / launch.step + 1 := by
    refine (Nat.div_eq_iff positive).mpr ⟨?_, ?_⟩ <;> rw [Nat.succ_mul] <;> omega
  have whole : (length / launch.step * launch.step + launch.step - 1) / launch.step = length / launch.step := by
    refine (Nat.div_eq_iff positive).mpr ⟨?_, ?_⟩ <;> omega
  unfold stepStarts
  rw [full, steps, whole, List.range_succ, List.map_append]
  rfl

/-- Terms behind the end that are no numbers are found by the last step. -/
theorem isNaN_columnSum (single : launch.kernel.register .dQ = .fp32) (positive : 0 < launch.step)
    (uneven : ¬ launch.step ∣ launch.columnCount) {term : Nat → Float32}
    (lost : ∀ column, launch.columnCount ≤ column → (term column).isNaN = true) (register : Float32) :
    (launch.columnSum (fun _ => launch.step) (launch.stepStarts launch.columnCount) term register).isNaN = true := by
  have rest := Nat.mod_lt launch.columnCount positive
  have part := Nat.mod_le launch.columnCount launch.step
  rw [stepStarts_eq_append positive uneven, columnSum, List.foldl_append, List.foldl_cons, List.foldl_nil, single]
  refine isNaN_between .dQ (isNaN_accumulate ⟨term launch.columnCount, ?_, lost _ (Nat.le_refl _)⟩ _)
  refine List.mem_map.mpr ⟨launch.columnCount % launch.step, List.mem_range.mpr rest, ?_⟩
  rw [Nat.sub_add_cancel part]

theorem getElem?_map_range {β : Type} (f : Nat → β) {count index : Nat} (below : index < count) :
    ((List.range count).map f)[index]? = some (f index) := by
  simp [below]

theorem of_mem_stepStarts (positive : 0 < launch.step) {length start : Nat}
    (member : start ∈ launch.stepStarts length) : launch.step ∣ start ∧ start < length := by
  obtain ⟨index, below, rfl⟩ := List.mem_map.mp member
  exact ⟨Dvd.intro_left index rfl, mul_lt_of_lt_ceil positive (List.mem_range.mp below)⟩

/-- What may be stored as an element of the derivative of a query: the sum over the columns that are there, up to the
    sign of a zero, if the last step is full or the columns behind the end have a finite derivative, and no number
    otherwise. -/
def StoredDerivative (launch : Launch) (buffers : Buffers Float32) (row dimension : Nat) (stored : Float32) : Prop :=
  ∃ term absent only value, launch.rowTerm buffers row = .ok term ∧
    launch.absentDerivative buffers row term = .ok absent ∧
    launch.queryDerivativeOver launch.present buffers row term = .ok only ∧ only[dimension]? = some value ∧
    (launch.step ∣ launch.columnCount ∨ absent.isFinite = true →
      Same stored (Precision.round (launch.kernel.memory .dQ) value)) ∧
    (¬ (launch.step ∣ launch.columnCount ∨ absent.isFinite = true) → stored.isNaN = true)

variable {buffers held : Buffers Float32} {row : Nat}

theorem Ready.queryDerivative_stored (ready : launch.Ready buffers) (inside : row < launch.rowCount) {term : Float32}
    (isTerm : launch.rowTerm buffers row = .ok term) :
    ∃ derivative : Nat → Float32,
      launch.queryDerivative buffers row term = .ok ((List.range launch.head).map derivative) ∧
        ∀ x < launch.head,
          launch.StoredDerivative buffers row x (Precision.round (launch.kernel.memory .dQ) (derivative x)) := by
  have within : row < (buffers.get .l).size :=
    Nat.lt_of_lt_of_le inside (Nat.le_trans (Nat.mul_one _).ge (ready.long .l (by simp)))
  obtain ⟨logSum, -, found⟩ := readCell_total within
  have absent := ready.absentDerivative_eq found term (Nat.le_refl launch.columnCount)
  have only := ready.queryDerivativeOver_eq found launch.present term
  -- All columns behind the end are alike: each adds the absent derivative times the zero of its key.
  have behind : ∀ column, launch.columnCount ≤ column → ∀ x,
      launch.columnDerivative buffers row (round (launch.kernel.memory .l) logSum) term column *
        launch.loaded buffers .k column x =
          launch.columnDerivative buffers row (round (launch.kernel.memory .l) logSum) term launch.columnCount * 0 := by
    intro column beyond x
    have alike := Except.ok.inj ((ready.absentDerivative_eq found term beyond).symm.trans absent)
    have zero : launch.loaded buffers .k column x = 0 := if_pos beyond
    rw [alike, zero]
  refine ⟨_, (queryDerivative_eq_over ..).trans (ready.queryDerivativeOver_eq found _ term), fun x below => ?_⟩
  refine ⟨term, _, _, _, isTerm, absent, only, getElem?_map_range _ below, ?_, ?_⟩
  · intro harmless
    refine Precision.round_same _ (columnSum_same ready.single ?_ 0)
    intro start member offset early beyond
    obtain ⟨whole, starts⟩ := of_mem_stepStarts ready.step member
    rcases harmless with even | finite
    · have reach := Nat.le_of_dvd (Nat.sub_pos_of_lt starts) (Nat.dvd_sub even whole)
      omega
    · rw [behind _ beyond]
      exact mul_zero_of_isFinite finite
  · intro lost
    obtain ⟨uneven, infinite⟩ := not_or.mp lost
    refine Precision.isNaN_round _ (isNaN_columnSum ready.single ready.step uneven ?_ 0)
    intro column beyond
    rw [behind _ beyond]
    exact mul_zero_of_not_isFinite (Bool.eq_false_iff.mpr infinite)

theorem rowTerm_agrees (launch : Launch) (agrees : Agrees [.d, .dQ] buffers held) :
    launch.rowTerm held row = launch.rowTerm buffers row := by
  unfold rowTerm Buffers.row
  simp only [agrees.kept .dO (by decide), agrees.kept .o (by decide)]

theorem queryDerivative_agrees (launch : Launch) (agrees : Agrees [.d, .dQ] buffers held) (term : Float32) :
    launch.queryDerivative held row term = launch.queryDerivative buffers row term := by
  unfold queryDerivative loadRows loadRow Buffers.row
  simp only [agrees.kept .q (by decide), agrees.kept .k (by decide), agrees.kept .v (by decide),
    agrees.kept .dO (by decide), agrees.kept .l (by decide)]

/-- The cells that a row of the pass for queries writes. -/
def QueryCells (launch : Launch) (row : Nat) (operand : Operand) (cell : Nat) : Prop :=
  operand = .d ∧ cell = row ∨
    operand = .dQ ∧ ∃ x < launch.head, cell = (launch.problem.layout .dQ).position row x

/-- What may stand in a cell after the pass. Nothing is said about the row terms. -/
def Allowed (launch : Launch) (buffers : Buffers Float32) (operand : Operand) (cell : Nat) (value : Float32) : Prop :=
  operand = .dQ → ∀ row < launch.rowCount, ∀ x < launch.head,
    cell = (launch.problem.layout .dQ).position row x → launch.StoredDerivative buffers row x value

/-- One row of the pass, after any others. -/
theorem Ready.runRow_stored (ready : launch.Ready buffers)
    (isQuery : launch.kernel.descriptor.type = ⟨.backwardQuery, true⟩) (inside : row < launch.rowCount)
    (agrees : Agrees [.d, .dQ] buffers held) :
    ∃ next, launch.runRow row held = .ok next ∧
      Stored (launch.Allowed buffers) (launch.QueryCells row) held next := by
  have runs : launch.runRow row held = launch.runBackwardQuery row held := by
    rw [Launch.runRow, isQuery]
    rfl
  obtain ⟨term, isTerm⟩ := ready.rowTerm_total inside
  obtain ⟨derivative, isDerivative, summed⟩ := ready.queryDerivative_stored inside isTerm
  have room : row < (held.get .d).size := by
    rw [agrees.size]
    exact Nat.lt_of_lt_of_le inside (Nat.le_trans (Nat.mul_one _).ge (ready.long .d (by simp)))
  obtain ⟨middle, storedTerm, first⟩ : ∃ middle,
      held.setCell .d row (round (launch.kernel.memory .d) term) = .ok middle ∧
        Stored (launch.Allowed buffers) (fun operand cell => operand = .d ∧ cell = row) held middle :=
    setCell_stored room (by rintro ⟨⟩)
  have later : Agrees [.d, .dQ] buffers middle := agrees.trans (first.agrees fun _ _ here => by simp [here.1])
  have fine : ∀ x < launch.head, launch.Allowed buffers .dQ ((launch.problem.layout .dQ).position row x)
      (Precision.round (launch.kernel.memory .dQ) (derivative x)) := by
    intro x below _ row' inside' x' below' equal
    obtain ⟨rfl, rfl⟩ := Layout.position_injective inside below inside' below' equal
    exact summed x below
  have long : (launch.problem.layout .dQ).size ≤ (middle.get .dQ).size := by
    rw [later.size]
    exact ready.long .dQ (by simp)
  obtain ⟨next, storedRow, second⟩ := setRow_stored _ inside long fine
  refine ⟨next, ?_, (first.trans second).congr fun _ _ => Iff.rfl⟩
  rw [runs, runBackwardQuery, launch.rowTerm_agrees agrees, isTerm, ok_bind, storeCell, storedTerm, ok_bind, isQuery,
    if_pos rfl, launch.queryDerivative_agrees later, isDerivative, ok_bind, storeRow, List.map_map]
  exact storedRow

/-- What an accepted kernel of the pass for queries leaves in single precision, for every element of every row of the
    threadgroups that run. -/
theorem run_queryDerivative (launch : Launch) (buffers : Buffers Float32)
    (accepted : Kernel.ofDescriptor launch.kernel.descriptor = .ok launch.kernel)
    (isQuery : launch.kernel.descriptor.type = ⟨.backwardQuery, true⟩) (checked : launch.check buffers = .ok ()) :
    ∃ after, launch.run buffers = .ok after ∧ ∀ row < launch.rowCount,
      row / launch.groupSize < (launch.kernel.grid launch.problem.extents).toNat → ∀ x < launch.head,
        ∃ stored, (after.get .dQ)[(launch.problem.layout .dQ).position row x]? = some stored ∧
          launch.StoredDerivative buffers row x stored := by
  have ready := ready_of_check accepted isQuery checked
  have parallel : launch.parallelCount = launch.rowCount := by
    rw [parallelCount, isQuery]
    rfl
  have within : ∀ row operand cell, launch.QueryCells row operand cell → operand ∈ [Operand.d, .dQ] := by
    rintro row operand cell (⟨rfl, -⟩ | ⟨rfl, -⟩)
    · decide
    · decide
  obtain ⟨after, ran, stored⟩ := launch.runGroups_stored (launch.Allowed buffers) [.d, .dQ] launch.QueryCells
    (List.range (launch.kernel.grid launch.problem.extents).toNat) buffers ready.group within
    (by
      intro row inside held agrees
      exact ready.runRow_stored isQuery (parallel ▸ inside) agrees)
  refine ⟨after, ?_, ?_⟩
  · rw [run, checked, ok_bind, ran]
  · intro row inside runs x below
    obtain ⟨value, found, allowed⟩ := (stored .dQ).written ((launch.problem.layout .dQ).position row x)
      ⟨row, parallel ▸ inside, List.mem_range.mpr runs, .inr ⟨rfl, x, below, rfl⟩⟩
    exact ⟨value, found, allowed rfl row inside x below rfl⟩

end Columns

end Launch

/-- A pass for queries in single precision. -/
def singleQuery : Descriptor where
  block := ⟨16, 64, 8⟩
  cache := .ofList [.q, .dO, .dQ]
  memory := Precisions.unset.setAll Operand.all .fp32
  register := Precisions.unset.setAll Operand.all .fp32
  head := 1
  asyncCache := true
  type := ⟨.backwardQuery, true⟩

/-- It at work on one query and two keys, whose scores are far below zero. -/
def lowScores : Launch where
  kernel := {
    descriptor := singleQuery
    operands := singleQuery.type.operands
    cached := .ofList [.q, .dO, .dQ]
    paddedHead := 8
    threadgroupMemory := 2048
    threadgroupSize := 64 }
  problem := { extents := { row := 1, column := 2, head := 1 } }

/-- What the pass finds there. -/
def lowBuffers : Buffers Float32 :=
  [(Operand.q, [0x3F800000]), (.k, [0xC3C80000, 0xC3C88000]), (.v, [0x3F800000, 0x40400000]), (.o, [0x3FC4D967]),
    (.l, [0xC4102811]), (.dO, [0x3F800000]), (.d, [0]), (.dQ, [0])].foldl
    (fun held (operand, patterns) => held.set operand (patterns.map Float32.ofBits).toArray) Buffers.empty

theorem run_queryDerivative_lowScores : ∃ after, lowScores.run lowBuffers = .ok after ∧
    ∃ stored, (after.get .dQ)[0]? = some stored ∧ lowScores.StoredDerivative lowBuffers 0 0 stored := by
  have accepted : Kernel.ofDescriptor lowScores.kernel.descriptor = .ok lowScores.kernel := by rfl
  have checked : lowScores.check lowBuffers = .ok () := by rfl
  obtain ⟨after, ran, rows⟩ := Launch.run_queryDerivative lowScores lowBuffers accepted rfl checked
  exact ⟨after, ran, rows 0 (by decide) (by decide) 0 (by decide)⟩

end KernelForge.Attention
