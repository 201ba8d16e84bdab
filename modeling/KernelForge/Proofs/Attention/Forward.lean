import KernelForge.Proofs.Attention.Formula

/-!
The forward pass over the real numbers. A row is summed step by step, always relative to the greatest exponent
so far: whatever number that is, the sum and the weighted values are those of the whole powers, divided by two
to that number, and it cancels when the last step divides one by the other. So the length of a step leaves no
trace in what is stored.
-/

namespace KernelForge.Attention

open Exact Register SoftmaxRegister

/-- A launch that works on matrices of these sizes. -/
structure Launch.Serves (launch : Launch) (m : Matrices) : Prop where
  rows : m.rows = launch.rowCount
  columns : m.columns = launch.columnCount
  head : m.head = launch.head

/-- Buffers that hold the queries, keys and values. -/
structure Launch.Given (launch : Launch) (m : Matrices) (buffers : Buffers EReal) : Prop extends launch.Serves m where
  queries : buffers.Holds launch.problem .q m.q
  keys : buffers.Holds launch.problem .k m.k
  values : buffers.Holds launch.problem .v m.v

open Buffers in
theorem Launch.Given.agrees {launch : Launch} {m : Matrices} {buffers after : Buffers EReal} {changed : List Operand}
    (given : launch.Given m buffers) (agrees : Agrees changed buffers after)
    (apart : ∀ operand ∈ [Operand.q, .k, .v], operand ∉ changed) : launch.Given m after where
  toServes := given.toServes
  queries := given.queries.agrees agrees (apart .q (by simp))
  keys := given.keys.agrees agrees (apart .k (by simp))
  values := given.values.agrees agrees (apart .v (by simp))

/-- The weight of a column relative to an exponent. Columns behind the end have none. -/
noncomputable def Matrices.weight (m : Matrices) (row : Nat) (greatest : ℝ) (column : Nat) : ℝ :=
  if column < m.columns then m.power row column / twoTo greatest else 0

namespace Matrices

variable (m : Matrices) (row : Nat)

theorem weight_rescale (greatest greater : ℝ) (column : Nat) :
    m.weight row greatest column * twoTo (greatest - greater) = m.weight row greater column := by
  unfold weight
  split
  · rw [twoTo_sub, div_mul_div_cancel₀ (twoTo_pos greatest).ne']
  · rw [zero_mul]

theorem twoTo_score (greatest : ℝ) (column : Nat) :
    twoTo (m.score row column * (logTwoEuler / √m.head) - greatest) = m.power row column / twoTo greatest := by
  rw [twoTo_sub, power, mul_div_assoc', mul_comm logTwoEuler]

/-- The sum of the first weights. -/
noncomputable def total (greatest : ℝ) (count : Nat) : ℝ :=
  ∑ column ∈ Finset.range count, m.weight row greatest column

/-- The first values times their weights. -/
noncomputable def weighted (greatest : ℝ) (count x : Nat) : ℝ :=
  ∑ column ∈ Finset.range count, m.weight row greatest column * padded m.columns m.v column x

theorem total_rescale (greatest greater : ℝ) (count : Nat) :
    m.total row greatest count * twoTo (greatest - greater) = m.total row greater count := by
  unfold total
  rw [Finset.sum_mul]
  exact Finset.sum_congr rfl fun column _ => m.weight_rescale row greatest greater column

theorem weighted_rescale (greatest greater : ℝ) (count x : Nat) :
    m.weighted row greatest count x * twoTo (greatest - greater) = m.weighted row greater count x := by
  unfold weighted
  rw [Finset.sum_mul]
  refine Finset.sum_congr rfl fun column _ => ?_
  rw [mul_right_comm, weight_rescale]

theorem total_add (greatest : ℝ) (start step : Nat) :
    m.total row greatest (start + step) = m.total row greatest start +
      ∑ offset ∈ Finset.range step, m.weight row greatest (start + offset) :=
  Finset.sum_range_add _ start step

/-- Behind the end nothing is added. -/
theorem sum_weight {count : Nat} (covered : m.columns ≤ count) (greatest : ℝ) (value : Nat → ℝ) :
    ∑ column ∈ Finset.range count, m.weight row greatest column * value column =
      (∑ column ∈ Finset.range m.columns, m.power row column * value column) / twoTo greatest := by
  rw [← Finset.sum_subset (Finset.range_subset_range.mpr covered), Finset.sum_div]
  · refine Finset.sum_congr rfl fun column member => ?_
    rw [weight, if_pos (Finset.mem_range.mp member), div_mul_eq_mul_div]
  · intro column _ outside
    rw [weight, if_neg (mt Finset.mem_range.mpr outside), zero_mul]

theorem total_covered {count : Nat} (covered : m.columns ≤ count) (greatest : ℝ) :
    m.total row greatest count = m.normalizer row / twoTo greatest := by
  have sums := m.sum_weight row covered greatest fun _ => 1
  simp only [mul_one] at sums
  exact sums

theorem weighted_covered {count : Nat} (covered : m.columns ≤ count) (greatest : ℝ) (x : Nat) :
    m.weighted row greatest count x =
      (∑ column ∈ Finset.range m.columns, m.power row column * m.v column x) / twoTo greatest := by
  unfold weighted
  rw [sum_weight m row covered]
  congr 1
  refine Finset.sum_congr rfl fun column member => ?_
  rw [padded_of_lt _ (Finset.mem_range.mp member)]

end Matrices

namespace Launch

variable [Remains] {launch : Launch} {m : Matrices} {row : Nat}

/-- The softmax of a row after its first columns, relative to some exponent. After the last column the output
    was divided by the sum. -/
def Summed (m : Matrices) (row count : Nat) (running : Running EReal) : Prop :=
  ∃ greatest : ℝ, running.greatest = greatest ∧ running.total = m.total row greatest count ∧
    running.output = realRow m.head fun x =>
      if m.columns ≤ count then m.weighted row greatest count x * (1 / m.total row greatest count)
      else m.weighted row greatest count x

/-- The scores of a step as numbers; those behind the end are minus infinity. -/
noncomputable def scoreAt (m : Matrices) (row column : Nat) : EReal :=
  if m.columns ≤ column then ⊥ else (m.score row column : ℝ)

theorem stepScores_real (serves : launch.Serves m) (inside : row < m.rows) (start : Nat) :
    launch.stepScores (realRow m.head (padded m.rows m.q row))
      (realRows launch.step m.head fun offset => padded m.columns m.k (start + offset)) start =
        (List.range launch.step).map fun offset => scoreAt m row (start + offset) := by
  unfold stepScores realRows
  rw [zipIdx_map_range, List.map_map]
  refine List.map_congr_left fun offset _ => ?_
  simp only [Function.comp_apply, ← serves.columns, scoreAt]
  split
  · rfl
  · rename_i within
    rw [dot_realRow, padded_of_lt _ inside, padded_of_lt _ (Nat.not_le.mp within)]
    rfl

theorem foldl_greater_real (m : Matrices) (row start : Nat) (offsets : List Nat) (held : ℝ) :
    ∃ top : ℝ, (offsets.map fun offset => scoreAt m row (start + offset)).foldl greater (held : EReal) = top := by
  induction offsets generalizing held with
  | nil => exact ⟨held, rfl⟩
  | cons offset offsets ih =>
    rw [List.map_cons, List.foldl_cons]
    by_cases masked : m.columns ≤ start + offset
    · have kept : greater (held : EReal) (scoreAt m row (start + offset)) = held := by
        rw [scoreAt, if_pos masked]
        exact max_bot_right _
      rw [kept]
      exact ih held
    · have grown : greater (held : EReal) (scoreAt m row (start + offset)) =
          (max held (m.score row (start + offset)) : ℝ) := by
        rw [scoreAt, if_neg masked]
        exact max_coe _ _
      rw [grown]
      exact ih _

omit [Remains] in
theorem forwardScale_pos (some : 0 < m.head) : 0 < logTwoEuler / √m.head := by
  exact div_pos logTwoEuler_pos (Real.sqrt_pos.mpr (Nat.cast_pos.mpr some))

/-- A power relative to an exponent is the weight of its column. -/
theorem exp2_score (some : 0 < m.head) (greatest : ℝ) (column : Nat) :
    exp2 (scoreAt m row column * forwardScale m.head - (greatest : EReal)) =
      (m.weight row greatest column : EReal) := by
  unfold scoreAt Matrices.weight
  by_cases masked : m.columns ≤ column
  · have vanishes : (⊥ : EReal) * ((logTwoEuler / √m.head : ℝ) : EReal) - (greatest : EReal) = ⊥ := by
      rw [EReal.bot_mul_coe_of_pos (forwardScale_pos some), EReal.bot_sub]
    rw [if_pos masked, if_neg (Nat.not_lt.mpr masked)]
    exact (congrArg (continued twoTo) vanishes).trans (continued_bot _)
  · rw [if_neg masked, if_pos (Nat.not_le.mp masked), ← m.twoTo_score]
    exact continued_coe _ (m.score row column * (logTwoEuler / √m.head) - greatest)

/-- The greatest exponent and the factor for what was summed before, whether the exponent grows or not. -/
theorem correction_real {greatest greater : ℝ} (least : greatest ≤ greater) :
    (if exceeds (greater : EReal) greatest then exp2 ((greatest : EReal) - greater) else one) =
        (twoTo (greatest - greater) : EReal) ∧
      (if exceeds (greater : EReal) greatest then (greater : EReal) else greatest) = greater := by
  by_cases grows : greatest < greater
  · have exceeded : exceeds (greater : EReal) greatest = true :=
      @decide_eq_true _ (Classical.propDecidable _) (EReal.coe_lt_coe_iff.mpr grows)
    rw [if_pos exceeded, if_pos exceeded]
    exact ⟨continued_coe _ (greatest - greater), rfl⟩
  · have same : greatest = greater := le_antisymm least (not_lt.mp grows)
    have kept : ¬ exceeds (greater : EReal) greatest = true := fun exceeded =>
      grows (EReal.coe_lt_coe_iff.mp (@of_decide_eq_true _ (Classical.propDecidable _) exceeded))
    rw [if_neg kept, if_neg kept, same, sub_self, twoTo_zero]
    exact ⟨rfl, rfl⟩

omit [Remains] in
/-- A step by the quantities it computes on the way. -/
theorem advance_of {α : Type} [SoftmaxRegister α] (launch : Launch) (running : Running α) (start : Nat)
    {scores : List α} (values : List (List α)) {candidate correction greatest : α} {weights : List α}
    (isCandidate : greater running.greatest (scores.foldl greater lowest * forwardScale launch.head) = candidate)
    (isCorrection : (if exceeds candidate running.greatest then exp2 (running.greatest - candidate) else one) =
      correction)
    (isGreatest : (if exceeds candidate running.greatest then candidate else running.greatest) = greatest)
    (isWeights : (scores.map fun score =>
      round (launch.kernel.register .p) (exp2 (score * forwardScale launch.head - greatest))) = weights) :
    launch.advance running start scores values =
      ⟨greatest, running.total * correction + Scalar.sum weights, launch.betweenSteps .o
        (if launch.columnCount ≤ start + launch.step then
          scaleRow (launch.kernel.register .o) (one / (running.total * correction + Scalar.sum weights))
            (accumulateRows (launch.kernel.register .o)
              (if start = 0 then running.output
                else scaleRow (launch.kernel.register .o) correction running.output) (weights.zip values))
        else accumulateRows (launch.kernel.register .o)
          (if start = 0 then running.output
            else scaleRow (launch.kernel.register .o) correction running.output) (weights.zip values))⟩ := by
  subst isCandidate isCorrection isGreatest isWeights
  rfl

/-- The weights of a step. -/
noncomputable def stepWeights (launch : Launch) (m : Matrices) (row start : Nat) (greatest : ℝ) : List EReal :=
  realRow launch.step fun offset => m.weight row greatest (start + offset)

theorem stepWeights_eq (serves : launch.Serves m) (some : 0 < m.head) (start : Nat) (greatest : ℝ) :
    (((List.range launch.step).map fun offset => scoreAt m row (start + offset)).map fun score =>
      round (launch.kernel.register .p) (exp2 (score * forwardScale launch.head - (greatest : EReal)))) =
        launch.stepWeights m row start greatest := by
  rw [List.map_map, ← serves.head]
  exact List.map_congr_left fun offset _ => exp2_score some greatest (start + offset)

omit [Remains] in
theorem stepWeights_total (greatest greater : ℝ) (start : Nat) :
    (m.total row greatest start : EReal) * (twoTo (greatest - greater) : EReal) +
      Scalar.sum (launch.stepWeights m row start greater) = (m.total row greater (start + launch.step) : EReal) := by
  unfold stepWeights realRow
  rw [sum_coe, sum_map_range, ← EReal.coe_mul, m.total_rescale, ← EReal.coe_add, m.total_add]

/-- Before the first step there is nothing to rescale. -/
theorem stepWeights_output (precision : Precision) (greatest greater : ℝ) (start : Nat) :
    accumulateRows precision
      (if start = 0 then realRow m.head (m.weighted row greatest start)
        else scaleRow precision (twoTo (greatest - greater) : EReal)
          (realRow m.head (m.weighted row greatest start)))
      ((launch.stepWeights m row start greater).zip
        (realRows launch.step m.head fun offset => padded m.columns m.v (start + offset))) =
      realRow m.head (m.weighted row greater (start + launch.step)) := by
  have rescaled : (if start = 0 then realRow m.head (m.weighted row greatest start)
      else scaleRow precision (twoTo (greatest - greater) : EReal)
        (realRow m.head (m.weighted row greatest start))) = realRow m.head (m.weighted row greater start) := by
    split
    · rename_i first
      subst first
      rfl
    · rw [scaleRow_realRow]
      simp only [m.weighted_rescale]
  rw [rescaled]
  exact accumulateRows_step precision m.head start launch.step (m.weight row greater) (padded m.columns m.v)

/-- A step takes its columns into the sums, whether the greatest exponent grows or not. -/
theorem advance_summed (serves : launch.Serves m) (some : 0 < m.head) {running : Running EReal} {start : Nat}
    (summed : Summed m row start running) (more : start < m.columns) :
    Summed m row (start + launch.step) (launch.advance running start
      ((List.range launch.step).map fun offset => scoreAt m row (start + offset))
      (realRows launch.step m.head fun offset => padded m.columns m.v (start + offset))) := by
  obtain ⟨held, total, output⟩ := running
  obtain ⟨greatest, rfl, rfl, rfl⟩ := summed
  -- Of the next exponent only that it is a number and did not shrink matters: the invariant allows any other.
  obtain ⟨top, isTop⟩ := foldl_greater_real m row start (List.range launch.step) Remains.lowest
  obtain ⟨greater, isGreater⟩ : ∃ greater, greater = max greatest (top * (logTwoEuler / √m.head)) := ⟨_, rfl⟩
  obtain ⟨isCorrection, isNext⟩ := correction_real (isGreater ▸ le_max_left greatest _ : greatest ≤ greater)
  have isCandidate : SoftmaxRegister.greater (greatest : EReal) ((top : EReal) * forwardScale launch.head) =
      (greater : EReal) := by
    rw [isGreater, ← max_coe, EReal.coe_mul, serves.head]
    rfl
  simp only [if_neg (Nat.not_le.mpr more)]
  rw [advance_of launch _ start _ ((congrArg _ (congrArg (· * _) isTop)).trans isCandidate) isCorrection isNext
    (stepWeights_eq serves some start greater), ← serves.columns]
  refine ⟨greater, rfl, stepWeights_total greatest greater start, ?_⟩
  have isSum : _ = (m.total row greater (start + launch.step) : EReal) := stepWeights_total greatest greater start
  have isOutput : _ = realRow m.head (m.weighted row greater (start + launch.step)) :=
    stepWeights_output (launch.kernel.register .o) greatest greater start
  rw [betweenSteps_real, isSum, isOutput]
  split
  · have quotient : (one : EReal) / (m.total row greater (start + launch.step) : EReal) =
        ((1 / m.total row greater (start + launch.step) : ℝ) : EReal) := (EReal.coe_div _ _).symm
    rw [quotient, scaleRow_realRow]
  · rfl

/-- Before the first step nothing is summed, relative to whatever the maximum starts from. -/
theorem start_summed (some : 0 < m.columns) : Summed m row 0 (Running.start m.head) := by
  refine ⟨Remains.lowest, rfl, ?_, ?_⟩
  · rw [Matrices.total, Finset.range_zero, Finset.sum_empty]
    rfl
  · simp only [if_neg (Nat.not_le.mpr some), Matrices.weighted, Finset.range_zero, Finset.sum_empty]
    exact replicate_realRow m.head

/-- After the last step the exponent cancels. -/
theorem Summed.finished {running : Running EReal} {count : Nat} (summed : Summed m row count running)
    (covered : m.columns ≤ count) (some : 0 < m.columns) :
    running.output = realRow m.head (m.output row) ∧
      running.greatest + log2 running.total = (m.logSum row : EReal) := by
  obtain ⟨greatest, isGreatest, isTotal, isOutput⟩ := summed
  rw [isGreatest, isTotal, isOutput, m.total_covered row covered]
  constructor
  · refine congrArg (realRow m.head) (funext fun x => ?_)
    rw [if_pos covered, m.weighted_covered row covered, one_div_div,
      div_mul_div_cancel₀ (twoTo_pos greatest).ne', Matrices.output, Finset.sum_div]
    refine Finset.sum_congr rfl fun column _ => ?_
    rw [Matrices.probability, div_mul_eq_mul_div]
  · have logarithm := add_logTwo_div (m.normalizer_pos some row) greatest
    exact (EReal.coe_add _ _).symm.trans (congrArg Real.toEReal logarithm)

theorem Given.loadQuery {buffers : Buffers EReal} (given : launch.Given m buffers) (index : Nat) :
    launch.loadRow buffers .q index = .ok (realRow m.head (padded m.rows m.q index)) :=
  loadRow_real given.queries given.rows.symm given.head.symm given.head.symm index

theorem Given.loadKeys {buffers : Buffers EReal} (given : launch.Given m buffers) (start : Nat) :
    launch.loadRows buffers .k start =
      .ok (realRows launch.step m.head fun offset => padded m.columns m.k (start + offset)) :=
  loadRows_real given.keys given.columns.symm given.head.symm given.head.symm start

theorem Given.loadValues {buffers : Buffers EReal} (given : launch.Given m buffers) (start : Nat) :
    launch.loadRows buffers .v start =
      .ok (realRows launch.step m.head fun offset => padded m.columns m.v (start + offset)) :=
  loadRows_real given.values given.columns.symm given.head.symm given.head.symm start

theorem forwardRow_real {buffers : Buffers EReal} (given : launch.Given m buffers) (positive : 0 < launch.step)
    (some : 0 < m.columns) (wide : 0 < m.head) (inside : row < m.rows) :
    ∃ running, launch.forwardRow buffers row = .ok running ∧
      running.output = realRow m.head (m.output row) ∧
        running.greatest + log2 running.total = (m.logSum row : EReal) := by
  have serves := given.toServes
  obtain ⟨running, folded, count, covered, summed⟩ := foldlM_stepStarts launch positive launch.columnCount
    (fun running start => do
      let keys ← launch.loadRows buffers .k start
      let values ← launch.loadRows buffers .v start
      return launch.advance running start
        (launch.stepScores (realRow m.head (padded m.rows m.q row)) keys start) values)
    (fun count running => Summed m row count running)
    (by
      intro start below running summed
      have next := advance_summed serves wide summed (serves.columns ▸ below)
      rw [← stepScores_real serves inside start] at next
      refine ⟨_, ?_, next⟩
      rw [given.loadKeys, ok_bind, given.loadValues, ok_bind]
      rfl)
    (Running.start m.head) (start_summed some)
  refine ⟨running, ?_, summed.finished (serves.columns ▸ covered) some⟩
  rw [forwardRow, given.loadQuery, ok_bind, ← serves.head]
  exact folded

omit [Remains] in
/-- What the pass writes. -/
theorem results_forward {type : KernelType} (isForward : type.pass = .forward) :
    type.results = [.o] ++ if type.secondary then [.l] else [] := by
  rw [KernelType.results, if_pos isForward]
  rfl

/-- One row of the pass stores its output and, if asked, its logarithm. -/
theorem runRow_forward (isForward : launch.kernel.descriptor.type.pass = .forward) {buffers : Buffers EReal}
    (given : launch.Given m buffers) (positive : 0 < launch.step) (some : 0 < m.columns) (wide : 0 < m.head)
    (long : ∀ operand ∈ launch.kernel.descriptor.type.results,
      (launch.problem.layout operand).size ≤ (buffers.get operand).size)
    (inside : row < m.rows) :
    ∃ next, launch.runRow row buffers = .ok next ∧
      Buffers.Stored (Correct launch.problem m.result)
        (RowCells launch.problem launch.kernel.descriptor.type.results row) buffers next := by
  obtain ⟨running, summed, isOutput, isLogarithm⟩ := forwardRow_real given positive some wide inside
  rw [given.rows] at inside
  rw [given.head] at isOutput
  rw [results_forward isForward] at long ⊢
  obtain ⟨middle, storedRow, first⟩ := storeRow_real m.result .o isOutput inside (long .o (by simp))
  rw [runRow, if_pos isForward, runForward, summed, ok_bind, storedRow, ok_bind]
  split
  · rename_i secondary
    rw [if_pos secondary] at long
    obtain ⟨next, storedCell, second⟩ := storeCell_real m.result .l isLogarithm rfl inside
      (by
        rw [(first .l).size]
        exact long .l (by simp))
    exact ⟨next, storedCell, stored_append m.result first second⟩
  · exact ⟨middle, rfl, by simpa using first⟩

/-- The whole pass leaves the output and, if asked, the logarithms. -/
theorem runGroups_forward {buffers : Buffers EReal} {groups : List Nat} (complete : launch.Complete groups buffers)
    (given : launch.Given m buffers) (isForward : launch.kernel.descriptor.type.pass = .forward)
    (some : 0 < m.columns) (wide : 0 < m.head) :
    ∃ last, launch.runGroups groups buffers = .ok last ∧
      Buffers.Agrees launch.kernel.descriptor.type.results buffers last ∧
        ∀ operand ∈ launch.kernel.descriptor.type.results, last.Holds launch.problem operand (m.result operand) := by
  have parallel : launch.parallelCount = launch.rowCount := by
    rw [parallelCount, isForward]
    rfl
  have written : ∀ operand ∈ launch.kernel.descriptor.type.results, operand = .o ∨ operand = .l := by
    rw [results_forward isForward]
    split <;> simp
  refine runGroups_holds m.result complete ?_ ?_
  · intro operand member
    rw [parallel]
    rcases written operand member with rfl | rfl <;> rfl
  · intro row inside held agrees
    rw [parallel, ← given.rows] at inside
    have apart : ∀ operand ∈ [Operand.q, .k, .v], operand ∉ launch.kernel.descriptor.type.results := by
      intro operand member result
      rcases written operand result with rfl | rfl <;> simp at member
    exact runRow_forward isForward (given.agrees agrees apart) complete.step some wide
      (complete.agrees agrees).long inside

end Launch

open Buffers

theorem given_inputs {kernel : Kernel} {problem : Problem} {inputs : Buffers ℝ}
    (long : ∀ operand ∈ [Operand.q, .k, .v], (problem.layout operand).size ≤ (inputs.get operand).size) :
    (⟨kernel, problem⟩ : Launch).Given (inputs.matrices problem) (inputs.map Real.toEReal) where
  rows := rfl
  columns := rfl
  head := rfl
  queries := holds_map (long .q (by simp))
  keys := holds_map (long .k (by simp))
  values := holds_map (long .v (by simp))

/-- In exact arithmetic the forward pass stores the output of the reference and the logarithms of its row sums,
    whichever kernel runs it and in whichever order its threadgroups run: neither the length of a step nor the
    number that running maxima start from leaves a trace. -/
theorem runGroups_eq_forward [Remains] (problem : Problem) (inputs : Buffers ℝ)
    (columns : 0 < problem.extents.column) (head : 0 < problem.extents.head)
    (long : ∀ operand ∈ [Operand.q, .k, .v], (problem.layout operand).size ≤ (inputs.get operand).size) :
    ∃ output, Reference.forward problem (inputs.map Real.toEReal) = .ok output ∧
      (∀ row < problem.extents.row.toNat, output.l[row]? = some ((Real.logb 2
        (∑ column ∈ Finset.range problem.extents.column.toNat, 2 ^ (logTwoEuler *
          (∑ x ∈ Finset.range problem.extents.head.toNat,
            inputs.matrix problem .q row x * inputs.matrix problem .k column x) /
              √problem.extents.head.toNat)) : ℝ) : EReal)) ∧
      ∀ (kernel : Kernel) (groups : List Nat), kernel.descriptor.type.pass = .forward →
        (⟨kernel, problem⟩ : Launch).Complete groups (inputs.map Real.toEReal) →
          ∃ after, (⟨kernel, problem⟩ : Launch).runGroups groups (inputs.map Real.toEReal) = .ok after ∧
            after.rows problem .o = .ok output.o ∧
              (kernel.descriptor.type.secondary →
                ∀ row < problem.extents.row.toNat, (after.get .l)[row]? = output.l[row]?) := by
  have some : 0 < (inputs.matrices problem).columns := UInt32.lt_iff_toNat_lt.mp columns
  have wide : 0 < (inputs.matrices problem).head := UInt16.lt_iff_toNat_lt.mp head
  refine ⟨_, Reference.forward_real problem inputs some long, ?_, ?_⟩
  · intro row inside
    exact getElem?_realRow _ inside
  · intro kernel groups isForward complete
    obtain ⟨after, ran, -, holds⟩ := Launch.runGroups_forward complete (given_inputs long) isForward some wide
    refine ⟨after, ran, ?_, ?_⟩
    · exact (holds .o (by simp [KernelType.results, isForward])).rows
    · intro secondary row inside
      rw [(holds .l (by simp [KernelType.results, isForward, secondary])).cell rfl inside]
      exact (getElem?_realRow (inputs.matrices problem).logSum inside).symm

/-- Two blocks of rows and two steps of columns, neither of them full. -/
def unevenProblem : Problem where
  extents := ⟨9, 11, 3⟩
  transpose := { k := true }

/-- A kernel for it. -/
def unevenKernel (type : KernelType) : Kernel where
  descriptor := {
    block := ⟨8, 8, 8⟩
    transposed := unevenProblem.transposed
    memory := unevenProblem.memoryPrecisions
    register := unevenProblem.registerPrecisions .apple9
    head := 3
    type }
  operands := type.operands
  cached := .empty
  paddedHead := 8
  threadgroupMemory := 256
  threadgroupSize := 32

/-- Numbers for every operand. -/
noncomputable def unevenInputs : Buffers ℝ :=
  ⟨Vector.replicate 15 ((Array.range 40).map fun (index : Nat) => (index / 8 : ℝ))⟩

theorem unevenInputs_size (operand : Operand) : (unevenInputs.get operand).size = 40 := by
  cases operand <;> simp [unevenInputs, Buffers.get, Vector.get, Operand.index]

theorem unevenInputs_long (operands : List Operand) :
    ∀ operand ∈ operands, (unevenProblem.layout operand).size ≤ (unevenInputs.get operand).size := by
  intro operand _
  rw [unevenInputs_size]
  cases operand <;> decide

/-- Both blocks, the last one first. -/
theorem uneven_complete (type : KernelType) :
    (⟨unevenKernel type, unevenProblem⟩ : Launch).Complete [1, 0] (unevenInputs.map Real.toEReal) where
  step := Nat.succ_pos 7
  group := Nat.succ_pos 7
  covered := by
    intro index below
    have inside : index < 11 := by
      unfold Launch.parallelCount at below
      split at below
      · exact below
      · exact Nat.lt_of_lt_of_le below (show 9 ≤ 11 by decide)
    have quotient : index / 8 = 1 ∨ index / 8 = 0 := by omega
    rw [List.mem_pair]
    exact quotient
  long := by
    simp only [get_map, Array.size_map]
    exact unevenInputs_long type.results

theorem runGroups_eq_forward_uneven :
    letI : Remains := ⟨-1000, 0⟩
    ∃ output after, Reference.forward unevenProblem (unevenInputs.map Real.toEReal) = .ok output ∧
      (⟨unevenKernel ⟨.forward, true⟩, unevenProblem⟩ : Launch).runGroups [1, 0]
        (unevenInputs.map Real.toEReal) = .ok after ∧
      after.rows unevenProblem .o = .ok output.o ∧ ∀ row < 9, (after.get .l)[row]? = output.l[row]? := by
  let _ : Remains := ⟨-1000, 0⟩
  obtain ⟨output, computed, -, equal⟩ := runGroups_eq_forward unevenProblem unevenInputs (by decide) (by decide)
    (unevenInputs_long _)
  obtain ⟨after, ran, rows, logarithms⟩ := equal (unevenKernel ⟨.forward, true⟩) [1, 0] rfl (uneven_complete _)
  exact ⟨output, after, computed, ran, rows, logarithms rfl⟩

end KernelForge.Attention
