import KernelForge.Proofs.Attention.Forward

/-!
The passes backward over the real numbers. Neither keeps the attention matrix: each computes its entries again,
from the inputs and the stored logarithm of a row sum, which turns powers of scores into probabilities. Behind
the end of a sequence that gives numbers which belong to no entry and need not be zero; they are multiplied by
rows of zeros, so nothing of them remains in the sums.
-/

namespace KernelForge.Attention

open Exact Register SoftmaxRegister

/-- Behind the end of a matrix nothing is added, whatever the weights are there. -/
theorem sum_padded {length count : Nat} (covered : length ≤ count) (matrix : Nat → Nat → ℝ) (x : Nat)
    {weight entry : Nat → ℝ} (same : ∀ index < length, weight index = entry index) :
    ∑ index ∈ Finset.range count, weight index * padded length matrix index x =
      ∑ index ∈ Finset.range length, entry index * matrix index x := by
  rw [← Finset.sum_subset (Finset.range_subset_range.mpr covered)]
  · refine Finset.sum_congr rfl fun index member => ?_
    have inside := Finset.mem_range.mp member
    rw [padded_of_lt _ inside, same index inside]
  · intro index _ outside
    rw [padded, if_neg (mt Finset.mem_range.mpr outside), mul_zero]

namespace Matrices

variable (m : Matrices)

/-- A probability computed again from a row of either sequence. -/
noncomputable def rebuilt (kept stepped : Nat → ℝ) (logSum : ℝ) : ℝ :=
  twoTo ((∑ x ∈ Finset.range m.head, kept x * stepped x) * (logTwoEuler / √m.head) - logSum)

/-- The derivative of its score. -/
noncomputable def rebuiltDerivative (kept keptDerivative stepped steppedDerivative : Nat → ℝ)
    (logSum rowTerm : ℝ) : ℝ :=
  m.rebuilt kept stepped logSum *
    ((∑ x ∈ Finset.range m.head, keptDerivative x * steppedDerivative x) * (1 / √m.head) - rowTerm)

theorem rebuilt_comm (first second : Nat → ℝ) (logSum : ℝ) :
    m.rebuilt first second logSum = m.rebuilt second first logSum := by
  simp only [rebuilt, mul_comm (first _)]

theorem rebuiltDerivative_comm (first firstDerivative second secondDerivative : Nat → ℝ) (logSum rowTerm : ℝ) :
    m.rebuiltDerivative first firstDerivative second secondDerivative logSum rowTerm =
      m.rebuiltDerivative second secondDerivative first firstDerivative logSum rowTerm := by
  simp only [rebuiltDerivative, m.rebuilt_comm first, mul_comm (firstDerivative _)]

/-- The logarithm of the row sum makes a probability of a power. -/
theorem rebuilt_eq_probability (some : 0 < m.columns) (row column : Nat) :
    m.rebuilt (m.q row) (m.k column) (m.logSum row) = m.probability row column := by
  have power := m.twoTo_score row (m.logSum row) column
  rw [logSum, twoTo_logTwo (m.normalizer_pos some row)] at power
  exact power

/-- The scale is in the row term for one part of the derivative and a factor of the other. -/
theorem rebuiltDerivative_eq_scoreDerivative (some : 0 < m.columns) (row column : Nat) :
    m.rebuiltDerivative (m.q row) (m.dO row) (m.k column) (m.v column) (m.logSum row)
      (m.rowTerm row * (1 / √m.head)) = m.scoreDerivative row column := by
  rw [rebuiltDerivative, m.rebuilt_eq_probability some, scoreDerivative, ← sub_mul, mul_assoc]

end Matrices

/-- Buffers that hold what the passes backward read beside the inputs. -/
structure Launch.Saved (launch : Launch) (m : Matrices) (buffers : Buffers EReal) : Prop
    extends launch.Given m buffers where
  outputDerivatives : buffers.Holds launch.problem .dO m.dO
  outputs : buffers.Holds launch.problem .o (m.result .o)
  logarithms : buffers.Holds launch.problem .l (m.result .l)

open Buffers in
theorem Launch.Saved.agrees {launch : Launch} {m : Matrices} {buffers after : Buffers EReal} {changed : List Operand}
    (saved : launch.Saved m buffers) (agrees : Agrees changed buffers after)
    (apart : ∀ operand ∈ [Operand.q, .k, .v, .dO, .o, .l], operand ∉ changed) : launch.Saved m after where
  toGiven := saved.toGiven.agrees agrees fun operand member => apart operand (by
    simp only [List.mem_cons] at member ⊢
    tauto)
  outputDerivatives := saved.outputDerivatives.agrees agrees (apart .dO (by simp))
  outputs := saved.outputs.agrees agrees (apart .o (by simp))
  logarithms := saved.logarithms.agrees agrees (apart .l (by simp))

namespace Launch

variable [Remains] {launch : Launch} {m : Matrices} {buffers : Buffers EReal} {row column : Nat}

theorem Saved.loadOutputDerivative (saved : launch.Saved m buffers) (index : Nat) :
    launch.loadRow buffers .dO index = .ok (realRow m.head (padded m.rows m.dO index)) :=
  loadRow_real saved.outputDerivatives saved.rows.symm saved.head.symm saved.head.symm index

theorem recompute_real (serves : launch.Serves m) (kept keptDerivative stepped steppedDerivative : Nat → ℝ)
    (logSum rowTerm : ℝ) :
    launch.recompute (realRow m.head kept) (realRow m.head keptDerivative) (realRow m.head stepped)
      (realRow m.head steppedDerivative) (logSum : EReal) (rowTerm : EReal) =
        ⟨(m.rebuilt kept stepped logSum : EReal),
          (m.rebuiltDerivative kept keptDerivative stepped steppedDerivative logSum rowTerm : EReal)⟩ := by
  have probability : exp2 (((∑ x ∈ Finset.range m.head, kept x * stepped x : ℝ) : EReal) * forwardScale m.head -
      (logSum : EReal)) = (m.rebuilt kept stepped logSum : EReal) :=
    continued_coe twoTo
      ((∑ x ∈ Finset.range m.head, kept x * stepped x) * (logTwoEuler / √m.head) - logSum)
  simp only [recompute, dot_realRow, ← serves.head, probability]
  rfl

/-- The row term of the pass is that of the formulas, scaled. -/
theorem rowTerm_real (saved : launch.Saved m buffers) (inside : row < m.rows) :
    launch.rowTerm buffers row = .ok (m.result .d row 0 : EReal) := by
  rw [saved.rows] at inside
  have derivative : buffers.row launch.problem .dO row = .ok (realRow m.head (m.dO row)) :=
    saved.head ▸ saved.outputDerivatives.row inside
  have output : buffers.row launch.problem .o row = .ok (realRow m.head (m.output row)) :=
    saved.head ▸ saved.outputs.row inside
  have unrounded : ∀ (precision : Precision) (values : List EReal), values.map (round precision) = values :=
    fun _ values => List.map_id values
  rw [rowTerm, derivative, ok_bind, output, ok_bind, unrounded, unrounded, scalarDot_realRow, ← saved.head]
  exact congrArg Except.ok (EReal.coe_mul _ _).symm

/-- The derivative of a score as the pass for queries computes it, also behind the end. -/
noncomputable def queryWeight (m : Matrices) (row column : Nat) : ℝ :=
  m.rebuiltDerivative (m.q row) (m.dO row) (padded m.columns m.k column) (padded m.columns m.v column)
    (m.logSum row) (m.result .d row 0)

theorem queryStep_real (serves : launch.Serves m) (start : Nat) :
    (launch.queryStep (realRow m.head (m.q row)) (realRow m.head (m.dO row)) (m.logSum row : EReal)
      (m.result .d row 0 : EReal) (realRows launch.step m.head fun offset => padded m.columns m.k (start + offset))
      (realRows launch.step m.head fun offset => padded m.columns m.v (start + offset))).map (·.derivative) =
        realRow launch.step fun offset => queryWeight m row (start + offset) := by
  unfold queryStep realRows
  rw [List.zipWith_map, List.zipWith_self, List.map_map]
  refine List.map_congr_left fun offset _ => ?_
  rw [Function.comp_apply, recompute_real serves]
  rfl

omit [Remains] in
theorem queryWeight_of_lt (some : 0 < m.columns) (inside : column < m.columns) :
    queryWeight m row column = m.scoreDerivative row column := by
  rw [queryWeight, padded_of_lt _ inside, padded_of_lt _ inside]
  exact m.rebuiltDerivative_eq_scoreDerivative some row column

/-- The derivative of a query, step by step. -/
theorem queryDerivative_real (saved : launch.Saved m buffers) (positive : 0 < launch.step) (some : 0 < m.columns)
    (inside : row < m.rows) :
    launch.queryDerivative buffers row (m.result .d row 0 : EReal) = .ok (realRow m.head (m.result .dQ row)) := by
  have logSum : readCell (buffers.get .l) row = .ok (m.logSum row : EReal) :=
    readCell_ok (saved.logarithms.cell rfl (Nat.lt_of_lt_of_eq inside saved.rows))
  have query := saved.loadQuery row
  have outputDerivative := saved.loadOutputDerivative row
  rw [padded_of_lt _ inside] at query outputDerivative
  -- The sums keep what the last step adds behind the end; it is dropped once, when all columns are covered.
  obtain ⟨last, folded, count, covered, isLast⟩ := foldlM_stepStarts launch positive launch.columnCount
    (fun held start => do
      let keys ← launch.loadRows buffers .k start
      let values ← launch.loadRows buffers .v start
      let pairs := launch.queryStep (realRow m.head (m.q row)) (realRow m.head (m.dO row)) (m.logSum row : EReal)
        (m.result .d row 0 : EReal) keys values
      return launch.betweenSteps .dQ
        (accumulateRows (launch.kernel.register .dQ) held ((pairs.map (·.derivative)).zip keys)))
    (fun count held => held = realRow m.head fun x =>
      ∑ column ∈ Finset.range count, queryWeight m row column * padded m.columns m.k column x)
    (by
      rintro start - held rfl
      refine ⟨_, ?_, (accumulateRows_step (launch.kernel.register .dQ) m.head start launch.step
        (queryWeight m row) (padded m.columns m.k))⟩
      rw [saved.loadKeys, ok_bind, saved.loadValues, ok_bind]
      refine congrArg Except.ok ?_
      rw [betweenSteps_real, queryStep_real saved.toServes])
    (List.replicate m.head Scalar.zero) (by simpa using replicate_realRow m.head)
  rw [← saved.columns] at covered
  have isDerivative : last = realRow m.head (m.result .dQ row) := by
    rw [isLast]
    refine congrArg (realRow m.head) (funext fun x => ?_)
    exact sum_padded covered m.k x fun column inside => queryWeight_of_lt some inside
  rw [queryDerivative, logSum, ok_bind, query, ok_bind, outputDerivative, ok_bind, ← isDerivative, ← saved.head]
  exact folded

/-- One row of the pass for queries stores its row term and the derivative of its query. -/
theorem runRow_backwardQuery (isQuery : launch.kernel.descriptor.type = ⟨.backwardQuery, true⟩)
    (saved : launch.Saved m buffers) (positive : 0 < launch.step) (some : 0 < m.columns)
    (long : ∀ operand ∈ [Operand.d, .dQ], (launch.problem.layout operand).size ≤ (buffers.get operand).size)
    (inside : row < m.rows) :
    ∃ next, launch.runRow row buffers = .ok next ∧
      Buffers.Stored (Correct launch.problem m.result) (RowCells launch.problem [.d, .dQ] row) buffers next := by
  have within : row < launch.rowCount := Nat.lt_of_lt_of_eq inside saved.rows
  have runs : launch.runRow row buffers = launch.runBackwardQuery row buffers := by
    rw [runRow, isQuery]
    rfl
  obtain ⟨middle, storedTerm, first⟩ := storeCell_real m.result .d rfl rfl within (long .d (by simp))
  -- The derivative is computed from the buffers with the row term already in them.
  have untouched : Buffers.Agrees [.d] buffers middle := first.agrees fun _ _ here => here.1
  have derivative := queryDerivative_real (saved.agrees untouched (by simp)) positive some inside
  rw [saved.head] at derivative
  obtain ⟨next, storedRow, second⟩ := storeRow_real m.result .dQ rfl within
    (by
      rw [(first .dQ).size]
      exact long .dQ (by simp))
  refine ⟨next, ?_, stored_append m.result first second⟩
  rw [runs, runBackwardQuery, rowTerm_real saved inside, ok_bind, storedTerm, ok_bind, isQuery, if_pos rfl,
    derivative, ok_bind]
  exact storedRow

theorem loadRowTerm_real {operand : Operand} {matrix : Nat → Nat → ℝ} {count : Nat}
    (holds : buffers.Holds launch.problem operand matrix) (isCount : launch.rowCount = count)
    (isVector : launch.problem.layout operand = ⟨launch.rowCount, 1, false⟩) (index : Nat) :
    launch.loadRowTerm buffers operand index = .ok (padded count matrix index 0 : EReal) := by
  subst isCount
  unfold loadRowTerm
  split
  · rename_i beyond
    rw [padded, if_neg (Nat.not_lt.mpr beyond)]
    rfl
  · rename_i inside
    have within := Nat.not_le.mp inside
    rw [readCell_ok (holds.cell isVector within), padded_of_lt _ within]
    rfl

/-- A probability as the pass for keys and values computes it, also behind the end. -/
noncomputable def keyProbability (m : Matrices) (column row : Nat) : ℝ :=
  m.rebuilt (m.k column) (padded m.rows m.q row) (padded m.rows (m.result .l) row 0)

/-- The derivative of its score. -/
noncomputable def keyWeight (m : Matrices) (column row : Nat) : ℝ :=
  m.rebuiltDerivative (m.k column) (m.v column) (padded m.rows m.q row) (padded m.rows m.dO row)
    (padded m.rows (m.result .l) row 0) (padded m.rows (m.result .d) row 0)

omit [Remains] in
theorem keyProbability_of_lt (some : 0 < m.columns) (inside : row < m.rows) :
    keyProbability m column row = m.probability row column := by
  rw [keyProbability, padded_of_lt _ inside, padded_of_lt _ inside, m.rebuilt_comm]
  exact m.rebuilt_eq_probability some row column

omit [Remains] in
theorem keyWeight_of_lt (some : 0 < m.columns) (inside : row < m.rows) :
    keyWeight m column row = m.scoreDerivative row column := by
  rw [keyWeight, padded_of_lt _ inside, padded_of_lt _ inside, padded_of_lt _ inside, padded_of_lt _ inside,
    m.rebuiltDerivative_comm]
  exact m.rebuiltDerivative_eq_scoreDerivative some row column

theorem keyStep_real (saved : launch.Saved m buffers) (terms : buffers.Holds launch.problem .d (m.result .d))
    (start : Nat) :
    launch.keyStep buffers (realRow m.head (m.k column)) (realRow m.head (m.v column)) start
      (realRows launch.step m.head fun offset => padded m.rows m.q (start + offset))
      (realRows launch.step m.head fun offset => padded m.rows m.dO (start + offset)) =
        .ok ((List.range launch.step).map fun offset =>
          ⟨(keyProbability m column (start + offset) : EReal), (keyWeight m column (start + offset) : EReal)⟩) := by
  unfold keyStep realRows
  rw [List.zip_map', zipIdx_map_range, List.mapM_map]
  refine mapM_eq_ok_map _ _ _ ?_
  intro offset _
  simp only [Function.comp_apply, loadRowTerm_real saved.logarithms saved.rows.symm rfl,
    loadRowTerm_real terms saved.rows.symm rfl, ok_bind, recompute_real saved.toServes]
  rfl

/-- The two sums over the first rows. -/
noncomputable def keySums (m : Matrices) (column count : Nat) : KeySums EReal where
  value := realRow m.head fun x => ∑ row ∈ Finset.range count, keyProbability m column row * padded m.rows m.dO row x
  key := realRow m.head fun x => ∑ row ∈ Finset.range count, keyWeight m column row * padded m.rows m.q row x

omit [Remains] in
theorem keySums_covered (some : 0 < m.columns) {count : Nat} (covered : m.rows ≤ count) :
    keySums m column count =
      ⟨realRow m.head (m.result .dV column), realRow m.head (m.result .dK column)⟩ := by
  unfold keySums
  congr 2
  · funext x
    exact sum_padded covered m.dO x fun row inside => keyProbability_of_lt some inside
  · funext x
    exact sum_padded covered m.q x fun row inside => keyWeight_of_lt some inside

/-- A step takes its rows into both sums and changes no buffer. -/
theorem advanceKey_real (isKey : launch.kernel.descriptor.type = ⟨.backwardKeyValue, true⟩)
    (saved : launch.Saved m buffers) (terms : buffers.Holds launch.problem .d (m.result .d)) (start : Nat) :
    launch.advanceKey column (realRow m.head (m.k column)) (realRow m.head (m.v column)) start
      (keySums m column start, buffers) = .ok (keySums m column (start + launch.step), buffers) := by
  have queries := loadRows_real saved.queries saved.rows.symm saved.head.symm saved.head.symm start
  have derivatives := loadRows_real saved.outputDerivatives saved.rows.symm saved.head.symm saved.head.symm start
  have value := accumulateRows_step (launch.kernel.register .dV) m.head start launch.step
    (keyProbability m column) (padded m.rows m.dO)
  have key := accumulateRows_step (launch.kernel.register .dK) m.head start launch.step
    (keyWeight m column) (padded m.rows m.q)
  simp only [advanceKey, queries, derivatives, keyStep_real saved terms, ok_bind, isKey, if_true, betweenSteps_real,
    List.map_map]
  exact congrArg (fun sums => Except.ok (sums, buffers)) (congrArg₂ KeySums.mk value key)

/-- All steps of a column. -/
theorem foldlM_advanceKey (column : Nat) (isKey : launch.kernel.descriptor.type = ⟨.backwardKeyValue, true⟩)
    (saved : launch.Saved m buffers) (terms : buffers.Holds launch.problem .d (m.result .d))
    (positive : 0 < launch.step) (some : 0 < m.columns) :
    (launch.stepStarts launch.rowCount).foldlM (fun state start =>
      launch.advanceKey column (realRow m.head (m.k column)) (realRow m.head (m.v column)) start state)
      ((⟨List.replicate m.head Scalar.zero, List.replicate m.head Scalar.zero⟩ : KeySums EReal), buffers) =
        .ok (⟨realRow m.head (m.result .dV column), realRow m.head (m.result .dK column)⟩, buffers) := by
  obtain ⟨last, folded, count, covered, isLast⟩ := foldlM_stepStarts launch positive launch.rowCount
    (fun state start =>
      launch.advanceKey column (realRow m.head (m.k column)) (realRow m.head (m.v column)) start state)
    (fun count state => state = (keySums m column count, buffers))
    (by
      rintro start - state rfl
      exact ⟨_, advanceKey_real isKey saved terms start, rfl⟩)
    (⟨List.replicate m.head Scalar.zero, List.replicate m.head Scalar.zero⟩, buffers)
    (by simp [keySums, replicate_realRow])
  rw [← saved.rows] at covered
  rw [folded, isLast, keySums_covered some covered]

/-- One column of the pass for keys and values stores the derivatives of its value and its key. -/
theorem runRow_backwardKeyValue (isKey : launch.kernel.descriptor.type = ⟨.backwardKeyValue, true⟩)
    (saved : launch.Saved m buffers) (terms : buffers.Holds launch.problem .d (m.result .d))
    (positive : 0 < launch.step)
    (long : ∀ operand ∈ [Operand.dV, .dK], (launch.problem.layout operand).size ≤ (buffers.get operand).size)
    (inside : column < m.columns) :
    ∃ next, launch.runRow column buffers = .ok next ∧
      Buffers.Stored (Correct launch.problem m.result) (RowCells launch.problem [.dV, .dK] column) buffers next := by
  have within : column < launch.columnCount := Nat.lt_of_lt_of_eq inside saved.columns
  have runs : launch.runRow column buffers = launch.runBackwardKeyValue column buffers := by
    rw [runRow, isKey]
    rfl
  have key := loadRow_real saved.keys saved.columns.symm saved.head.symm saved.head.symm column
  have value := loadRow_real saved.values saved.columns.symm saved.head.symm saved.head.symm column
  rw [padded_of_lt _ inside] at key value
  have sums := foldlM_advanceKey column isKey saved terms positive (Nat.zero_lt_of_lt inside)
  obtain ⟨middle, storedValue, first⟩ := storeRow_real m.result .dV
    (congrArg (realRow · (m.result .dV column)) saved.head) within (long .dV (by simp))
  obtain ⟨next, storedKey, second⟩ := storeRow_real m.result .dK
    (congrArg (realRow · (m.result .dK column)) saved.head) within
    (by
      rw [(first .dK).size]
      exact long .dK (by simp))
  refine ⟨next, ?_, stored_append m.result first second⟩
  rw [runs, runBackwardKeyValue, key, ok_bind, value, ok_bind, ← saved.head]
  simp only [sums, ok_bind, storedValue, isKey, if_true]
  exact storedKey

/-- The whole pass for queries leaves the row terms and the derivatives of the queries. -/
theorem runGroups_backwardQuery (isQuery : launch.kernel.descriptor.type = ⟨.backwardQuery, true⟩)
    {groups : List Nat} (complete : launch.Complete groups buffers) (saved : launch.Saved m buffers)
    (some : 0 < m.columns) :
    ∃ last, launch.runGroups groups buffers = .ok last ∧ Buffers.Agrees [.d, .dQ] buffers last ∧
      ∀ operand ∈ [Operand.d, .dQ], last.Holds launch.problem operand (m.result operand) := by
  have parallel : launch.parallelCount = launch.rowCount := by
    rw [parallelCount, isQuery]
    rfl
  have results : launch.kernel.descriptor.type.results = [.d, .dQ] := by
    rw [isQuery]
    rfl
  rw [← results]
  refine runGroups_holds m.result complete ?_ ?_
  · rw [results, parallel]
    simp [Problem.layout, rowCount]
  · intro row inside held agrees
    rw [parallel, ← saved.rows] at inside
    have long := (complete.agrees agrees).long
    rw [results] at agrees long ⊢
    exact runRow_backwardQuery isQuery (saved.agrees agrees (by simp)) complete.step some long inside

/-- The whole pass for keys and values leaves their derivatives. -/
theorem runGroups_backwardKeyValue (isKey : launch.kernel.descriptor.type = ⟨.backwardKeyValue, true⟩)
    {groups : List Nat} (complete : launch.Complete groups buffers) (saved : launch.Saved m buffers)
    (terms : buffers.Holds launch.problem .d (m.result .d)) :
    ∃ last, launch.runGroups groups buffers = .ok last ∧ Buffers.Agrees [.dV, .dK] buffers last ∧
      ∀ operand ∈ [Operand.dV, .dK], last.Holds launch.problem operand (m.result operand) := by
  have parallel : launch.parallelCount = launch.columnCount := by
    rw [parallelCount, isKey]
    rfl
  have results : launch.kernel.descriptor.type.results = [.dV, .dK] := by
    rw [isKey]
    rfl
  rw [← results]
  refine runGroups_holds m.result complete ?_ ?_
  · rw [results, parallel]
    simp [Problem.layout, columnCount]
  · intro column inside held agrees
    rw [parallel, ← saved.columns] at inside
    have long := (complete.agrees agrees).long
    rw [results] at agrees long ⊢
    exact runRow_backwardKeyValue isKey (saved.agrees agrees (by simp)) (terms.agrees agrees (by simp))
      complete.step long inside

end Launch

open Buffers

/-- The stored results of a forward pass are what the passes backward start from. -/
theorem saved_of_forward {kernel : Kernel} {problem : Problem} {inputs : Buffers ℝ} {buffers : Buffers EReal}
    (long : ∀ operand ∈ [Operand.q, .k, .v, .dO], (problem.layout operand).size ≤ (inputs.get operand).size)
    (kept : ∀ operand ∈ [Operand.q, .k, .v, .dO], buffers.get operand = (inputs.map Real.toEReal).get operand)
    (outputs : buffers.rows problem .o = .ok (realRows (inputs.matrices problem).rows (inputs.matrices problem).head
      (inputs.matrices problem).output))
    (logarithms : ∀ row < problem.extents.row.toNat, (buffers.get .l)[row]? =
      (realRow (inputs.matrices problem).rows (inputs.matrices problem).logSum)[row]?) :
    (⟨kernel, problem⟩ : Launch).Saved (inputs.matrices problem) buffers := by
  have holds : ∀ operand ∈ [Operand.q, .k, .v, .dO],
      buffers.Holds problem operand (inputs.matrix problem operand) := by
    intro operand member index inLength dimension inHead
    rw [kept operand member]
    exact holds_map (long operand member) index inLength dimension inHead
  exact {
    rows := rfl
    columns := rfl
    head := rfl
    queries := holds .q (by simp)
    keys := holds .k (by simp)
    values := holds .v (by simp)
    outputDerivatives := holds .dO (by simp)
    outputs := holds_of_rows outputs
    logarithms := by
      intro row inside dimension inHead
      obtain rfl : dimension = 0 := Nat.lt_one_iff.mp inHead
      have place : (problem.layout .l).position row 0 = row := Nat.mul_one row
      rw [place]
      exact (logarithms row inside).trans (getElem?_realRow _ inside) }

/-- In exact arithmetic the two passes backward, one after the other, leave the derivatives of the reference, and
    its row terms with their scale, as soon as they find the results of the forward pass. Neither the length of
    their steps nor the order of their threadgroups leaves a trace. -/
theorem runGroups_eq_backward [Remains] (problem : Problem) (inputs : Buffers ℝ)
    (columns : 0 < problem.extents.column)
    (long : ∀ operand ∈ [Operand.q, .k, .v, .dO], (problem.layout operand).size ≤ (inputs.get operand).size) :
    ∃ output gradients, Reference.forward problem (inputs.map Real.toEReal) = .ok output ∧
      Reference.backward problem (inputs.map Real.toEReal) = .ok gradients ∧
      ∀ (query key : Kernel) (queryGroups keyGroups : List Nat) (buffers : Buffers EReal),
        query.descriptor.type = ⟨.backwardQuery, true⟩ → key.descriptor.type = ⟨.backwardKeyValue, true⟩ →
        (⟨query, problem⟩ : Launch).Complete queryGroups buffers →
        (⟨key, problem⟩ : Launch).Complete keyGroups buffers →
        (∀ operand ∈ [Operand.q, .k, .v, .dO], buffers.get operand = (inputs.map Real.toEReal).get operand) →
        buffers.rows problem .o = .ok output.o →
        (∀ row < problem.extents.row.toNat, (buffers.get .l)[row]? = output.l[row]?) →
          ∃ middle after, (⟨query, problem⟩ : Launch).runGroups queryGroups buffers = .ok middle ∧
            (⟨key, problem⟩ : Launch).runGroups keyGroups middle = .ok after ∧
            (∀ row < problem.extents.row.toNat, ∃ term, gradients.d[row]? = some term ∧
              (after.get .d)[row]? = some (term / (√problem.extents.head.toNat : ℝ))) ∧
            after.rows problem .dQ = .ok gradients.dQ ∧ after.rows problem .dK = .ok gradients.dK ∧
              after.rows problem .dV = .ok gradients.dV := by
  have some : 0 < (inputs.matrices problem).columns := UInt32.lt_iff_toNat_lt.mp columns
  have inputsLong : ∀ operand ∈ [Operand.q, .k, .v], (problem.layout operand).size ≤ (inputs.get operand).size := by
    intro operand member
    refine long operand ?_
    simp only [List.mem_cons] at member ⊢
    tauto
  refine ⟨_, _, Reference.forward_real problem inputs some inputsLong,
    Reference.backward_real problem inputs some long, ?_⟩
  intro query key queryGroups keyGroups buffers isQuery isKey queryComplete keyComplete kept outputs logarithms
  have saved : ∀ kernel, (⟨kernel, problem⟩ : Launch).Saved (inputs.matrices problem) buffers := fun _ =>
    saved_of_forward long kept outputs logarithms
  obtain ⟨middle, ranQuery, first, queryHolds⟩ :=
    Launch.runGroups_backwardQuery isQuery queryComplete (saved query) some
  have terms := queryHolds .d (by simp)
  obtain ⟨after, ranKey, second, keyHolds⟩ := Launch.runGroups_backwardKeyValue isKey (keyComplete.agrees first)
    ((saved key).agrees first (by simp)) terms
  refine ⟨middle, after, ranQuery, ranKey, ?_, ?_, ?_, ?_⟩
  · intro row inside
    refine ⟨_, getElem?_realRow _ inside, ?_⟩
    rw [(terms.agrees second (by simp)).cell rfl inside, ← EReal.coe_div, ← mul_one_div]
    rfl
  · exact ((queryHolds .dQ (by simp)).agrees second (by simp)).rows
  · exact (keyHolds .dK (by simp)).rows
  · exact (keyHolds .dV (by simp)).rows

theorem runGroups_eq_backward_uneven :
    letI : Remains := ⟨-1000, 0⟩
    ∃ gradients saved middle after, Reference.backward unevenProblem (unevenInputs.map Real.toEReal) = .ok gradients ∧
      (⟨unevenKernel ⟨.forward, true⟩, unevenProblem⟩ : Launch).runGroups [1, 0]
        (unevenInputs.map Real.toEReal) = .ok saved ∧
      (⟨unevenKernel ⟨.backwardQuery, true⟩, unevenProblem⟩ : Launch).runGroups [1, 0] saved = .ok middle ∧
      (⟨unevenKernel ⟨.backwardKeyValue, true⟩, unevenProblem⟩ : Launch).runGroups [1, 0] middle = .ok after ∧
      (∀ row < unevenProblem.extents.row.toNat, ∃ term, gradients.d[row]? = some term ∧
        (after.get .d)[row]? = some (term / (√unevenProblem.extents.head.toNat : ℝ))) ∧
      after.rows unevenProblem .dQ = .ok gradients.dQ ∧ after.rows unevenProblem .dK = .ok gradients.dK ∧
        after.rows unevenProblem .dV = .ok gradients.dV := by
  let _ : Remains := ⟨-1000, 0⟩
  obtain ⟨output, gradients, isOutput, isGradients, equal⟩ :=
    runGroups_eq_backward unevenProblem unevenInputs (by decide) (unevenInputs_long _)
  have some : 0 < (unevenInputs.matrices unevenProblem).columns := by decide
  obtain ⟨saved, ran, agrees, holds⟩ := Launch.runGroups_forward (uneven_complete ⟨.forward, true⟩)
    (given_inputs (unevenInputs_long _)) rfl some (by decide)
  obtain rfl := Except.ok.inj
    (isOutput.symm.trans (Reference.forward_real unevenProblem unevenInputs some (unevenInputs_long _)))
  obtain ⟨middle, after, ranQuery, ranKey, derivatives⟩ := equal (unevenKernel ⟨.backwardQuery, true⟩)
    (unevenKernel ⟨.backwardKeyValue, true⟩) [1, 0] [1, 0] saved rfl rfl ((uneven_complete _).agrees agrees)
    ((uneven_complete _).agrees agrees) (by
      intro operand member
      refine agrees.kept operand ?_
      revert operand
      decide)
    (holds .o (by decide)).rows
    (by
      intro row inside
      rw [(holds .l (by decide)).cell rfl inside]
      exact (getElem?_realRow (unevenInputs.matrices unevenProblem).logSum inside).symm)
  exact ⟨gradients, saved, middle, after, isGradients, ran, ranQuery, ranKey, derivatives⟩

end KernelForge.Attention
