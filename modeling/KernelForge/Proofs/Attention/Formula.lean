import KernelForge.Proofs.Attention.Matrices

/-!
Attention as formulas over real matrices, and the reference as an evaluation of them. A row of the attention
matrix is a quotient of powers of two, from which the greatest score that the reference takes out cancels.
-/

namespace KernelForge.Attention

open Exact

/-- The matrices of a problem. -/
structure Matrices where
  rows : Nat
  columns : Nat
  head : Nat
  q : Nat → Nat → ℝ
  k : Nat → Nat → ℝ
  v : Nat → Nat → ℝ
  dO : Nat → Nat → ℝ

namespace Matrices

variable (m : Matrices)

/-- The inner product of a query and a key. -/
noncomputable def score (row column : Nat) : ℝ :=
  ∑ x ∈ Finset.range m.head, m.q row x * m.k column x

/-- The exponential of a scaled score, as a power of two. -/
noncomputable def power (row column : Nat) : ℝ :=
  twoTo (logTwoEuler * m.score row column / √m.head)

/-- The sum that a row of the attention matrix is divided by. -/
noncomputable def normalizer (row : Nat) : ℝ :=
  ∑ column ∈ Finset.range m.columns, m.power row column

/-- The logarithm of that sum to base two. -/
noncomputable def logSum (row : Nat) : ℝ :=
  logTwo (m.normalizer row)

/-- An entry of the attention matrix. -/
noncomputable def probability (row column : Nat) : ℝ :=
  m.power row column / m.normalizer row

/-- An entry of the output. -/
noncomputable def output (row x : Nat) : ℝ :=
  ∑ column ∈ Finset.range m.columns, m.probability row column * m.v column x

/-- The inner product of a row of the output with its derivative. -/
noncomputable def rowTerm (row : Nat) : ℝ :=
  ∑ x ∈ Finset.range m.head, m.dO row x * m.output row x

/-- The derivative of a score. -/
noncomputable def scoreDerivative (row column : Nat) : ℝ :=
  m.probability row column * ((∑ x ∈ Finset.range m.head, m.dO row x * m.v column x) - m.rowTerm row) * (1 / √m.head)

/-- What the passes leave in the operands they write. The row term is stored with its scale. -/
noncomputable def result : Operand → Nat → Nat → ℝ
  | .o => m.output
  | .l => fun row _ => m.logSum row
  | .d => fun row _ => m.rowTerm row * (1 / √m.head)
  | .dQ => fun row x => ∑ column ∈ Finset.range m.columns, m.scoreDerivative row column * m.k column x
  | .dK => fun column x => ∑ row ∈ Finset.range m.rows, m.scoreDerivative row column * m.q row x
  | .dV => fun column x => ∑ row ∈ Finset.range m.rows, m.probability row column * m.dO row x
  | _ => fun _ _ => 0

theorem power_pos (row column : Nat) : 0 < m.power row column :=
  twoTo_pos _

theorem normalizer_pos (some : 0 < m.columns) (row : Nat) : 0 < m.normalizer row :=
  Finset.sum_pos (fun column _ => m.power_pos row column) ⟨0, Finset.mem_range.mpr some⟩

end Matrices

namespace Reference

/-- The greatest of some real numbers is a real number. -/
theorem foldl_max_real (score : Nat → ℝ) {count : Nat} (some : 0 < count) :
    ∃ greatest : ℝ, ((List.range count).map fun index => (score index : EReal)).foldl max ⊥ = greatest := by
  induction count with
  | zero => exact absurd some (Nat.lt_irrefl 0)
  | succ count ih =>
    rw [List.range_succ, List.map_append, List.foldl_append]
    by_cases first : count = 0
    · subst first
      exact ⟨score 0, by simp⟩
    · obtain ⟨greatest, found⟩ := ih (by omega)
      rw [found]
      exact ⟨max greatest (score count), max_coe greatest (score count)⟩

theorem sum_exp_sub (score : Nat → ℝ) (count : Nat) (greatest : ℝ) :
    ∑ index ∈ Finset.range count, Real.exp (score index - greatest) =
      (∑ index ∈ Finset.range count, Real.exp (score index)) / Real.exp greatest := by
  rw [Finset.sum_div]
  exact Finset.sum_congr rfl fun index _ => Real.exp_sub _ _

/-- The softmax of a row of real scores; the greatest score cancels. -/
theorem softmax_real (score : Nat → ℝ) {count : Nat} (some : 0 < count) :
    softmax ((List.range count).map fun index => (score index : EReal)) =
      ⟨(List.range count).map fun index =>
          ((Real.exp (score index) / ∑ other ∈ Finset.range count, Real.exp (score other) : ℝ) : EReal),
        (Real.log (∑ index ∈ Finset.range count, Real.exp (score index)) : ℝ)⟩ := by
  obtain ⟨greatest, found⟩ := foldl_max_real score some
  have positive : 0 < ∑ index ∈ Finset.range count, Real.exp (score index) :=
    Finset.sum_pos (fun index _ => Real.exp_pos _) ⟨0, Finset.mem_range.mpr some⟩
  have powers : ((List.range count).map fun index => (score index : EReal)).map
      (fun score => Exponential.exp (score - (greatest : EReal))) =
        (List.range count).map fun index => ((Real.exp (score index - greatest) : ℝ) : EReal) := by
    rw [List.map_map]
    refine List.map_congr_left fun index _ => ?_
    exact continued_coe Real.exp (score index - greatest)
  have total := sum_coe (fun index => Real.exp (score index - greatest)) (List.range count)
  rw [sum_map_range, sum_exp_sub] at total
  have start : ((List.range count).map fun index => (score index : EReal)).foldl Exponential.greater
      Exponential.bottom = (greatest : EReal) := found
  simp only [softmax, start, powers, total]
  congr 1
  · rw [List.map_map]
    refine List.map_congr_left fun index _ => ?_
    refine (EReal.coe_div _ _).symm.trans ?_
    rw [Real.exp_sub, div_div_div_cancel_right₀ (Real.exp_ne_zero greatest)]
  · refine (EReal.coe_add _ _).symm.trans ?_
    rw [EReal.toReal_coe, Real.log_div positive.ne' (Real.exp_ne_zero greatest), Real.log_exp]
    ring_nf

variable (m : Matrices)

/-- A row of the attention matrix. -/
noncomputable def realSoftmax (row : Nat) : SoftmaxRow EReal :=
  ⟨(List.range m.columns).map fun column => (m.probability row column : EReal),
    (Real.log (m.normalizer row) : ℝ)⟩

theorem power_eq_exp (row column : Nat) : m.power row column = Real.exp (m.score row column * (1 / √m.head)) := by
  rw [← twoTo_logTwoEuler, Matrices.power, mul_one_div, mul_div_assoc]

theorem scores_real (row : Nat) :
    scores m.head (realRows m.columns m.head m.k) (realRow m.head (m.q row)) =
      (List.range m.columns).map fun column => ((m.score row column * (1 / √m.head) : ℝ) : EReal) := by
  unfold scores realRows
  rw [List.map_map]
  refine List.map_congr_left fun column _ => ?_
  simp only [Function.comp_apply]
  rw [scalarDot_realRow]
  exact (EReal.coe_mul _ _).symm

theorem attentionRows_real (some : 0 < m.columns) :
    attentionRows m.head (realRows m.rows m.head m.q) (realRows m.columns m.head m.k) =
      (List.range m.rows).map (realSoftmax m) := by
  unfold attentionRows
  rw [show realRows m.rows m.head m.q = (List.range m.rows).map fun row => realRow m.head (m.q row) from rfl,
    List.map_map]
  refine List.map_congr_left fun row _ => ?_
  simp only [Function.comp_apply]
  rw [scores_real, softmax_real _ some]
  simp only [← power_eq_exp]
  rfl

/-- Rows with their weights. -/
theorem weightedSum_real (count width : Nat) (weight : Nat → ℝ) (entry : Nat → Nat → ℝ) :
    Scalar.weightedSum width ((realRow count weight).zip (realRows count width entry)) =
      realRow width fun x => ∑ index ∈ Finset.range count, weight index * entry index x := by
  have weighted := weightedSum_realRow width weight entry (List.range count)
  simp only [sum_map_range] at weighted
  rw [realRow, realRows, List.zip_map']
  exact weighted

theorem outputRows_real :
    ((List.range m.rows).map (realSoftmax m)).map (outputRow m.head (realRows m.columns m.head m.v)) =
      realRows m.rows m.head m.output := by
  rw [List.map_map]
  exact List.map_congr_left fun row _ => weightedSum_real m.columns m.head (m.probability row) m.v

theorem rowTerms_real :
    List.zipWith Scalar.dot (realRows m.rows m.head m.dO) (realRows m.rows m.head m.output) =
      realRow m.rows m.rowTerm := by
  unfold realRows realRow
  rw [List.zipWith_map, List.zipWith_self]
  exact List.map_congr_left fun row _ => scalarDot_realRow m.head (m.dO row) (m.output row)

theorem scoreDerivatives_real (row : Nat) :
    scoreDerivatives m.head (realRows m.columns m.head m.v) (realSoftmax m row) (realRow m.head (m.dO row))
      (m.rowTerm row : EReal) = realRow m.columns (m.scoreDerivative row) := by
  unfold scoreDerivatives realSoftmax realRows
  rw [List.zipWith_map, List.zipWith_self]
  refine List.map_congr_left fun column _ => ?_
  rw [scalarDot_realRow, Matrices.scoreDerivative, EReal.coe_mul, EReal.coe_mul, EReal.coe_sub]
  rfl

/-- The columns of a matrix of real numbers. -/
theorem columns_real (height width : Nat) (matrix : Nat → Nat → ℝ) :
    columns width (realRows height width matrix) =
      realRows width height fun column row => matrix row column := by
  unfold columns realRows
  refine List.map_congr_left fun column member => ?_
  have inside := List.mem_range.mp member
  rw [List.filterMap_map, realRow, ← List.filterMap_eq_map]
  refine List.filterMap_congr fun row _ => ?_
  exact getElem?_realRow (matrix row) inside

/-- Each row of weights with the same rows. -/
theorem weightedSums_real (count height width : Nat) (weight entry : Nat → Nat → ℝ) :
    (realRows count height weight).map (fun weights => Scalar.weightedSum width
      (weights.zip (realRows height width entry))) =
        realRows count width fun index x => ∑ other ∈ Finset.range height, weight index other * entry other x := by
  rw [show realRows count height weight = (List.range count).map fun index => realRow height (weight index) from rfl,
    List.map_map]
  exact List.map_congr_left fun index _ => weightedSum_real height width (weight index) entry

/-- What the derivatives are computed from, row by row. -/
theorem zip_real {β : Type} (combine : SoftmaxRow EReal × List EReal × EReal → β) :
    (((List.range m.rows).map (realSoftmax m)).zip ((realRows m.rows m.head m.dO).zip (realRow m.rows m.rowTerm))).map
      combine = (List.range m.rows).map fun row =>
        combine (realSoftmax m row, realRow m.head (m.dO row), (m.rowTerm row : EReal)) := by
  rw [realRow, realRows, List.zip_map', List.zip_map', List.map_map]
  rfl

end Reference

namespace Buffers

theorem layout_size_lt (problem : Problem) (operand : Operand) : (problem.layout operand).size < 2 ^ 63 := by
  have length : (problem.layout operand).length < 2 ^ 32 := by
    cases operand <;> exact UInt32.toNat_lt _
  have head : (problem.layout operand).head < 2 ^ 16 := by
    cases operand <;> first | exact UInt16.toNat_lt _ | exact (by decide : 1 < 2 ^ 16)
  calc (problem.layout operand).size < 2 ^ 32 * 2 ^ 16 := Nat.mul_lt_mul'' length head
    _ ≤ 2 ^ 63 := by norm_num

/-- No matrix is too large for 64 bits. -/
theorem toInt_bufferSize (problem : Problem) {operand : Operand} (matrix : operand ≠ .dST) :
    (problem.bufferSize operand).toInt = (problem.layout operand).size := by
  rw [Problem.bufferSize, if_neg matrix]
  exact Int64.toInt_ofNat_of_lt (layout_size_lt problem operand)

/-- Buffers that hold their matrices pass the check. -/
theorem check_ok {α : Type} (buffers : Buffers α) (problem : Problem) (operands : List Operand)
    (long : ∀ operand ∈ operands, operand ≠ .dST ∧ (problem.layout operand).size ≤ (buffers.get operand).size) :
    buffers.check problem operands = .ok () := by
  have passes : ∀ operand ∈ operands,
      BufferDefect.check operand.name (buffers.get operand) (problem.bufferSize operand) = [] := by
    intro operand member
    obtain ⟨matrix, long⟩ := long operand member
    unfold BufferDefect.check
    rw [toInt_bufferSize problem matrix, if_neg (by omega)]
  unfold check
  rw [List.flatMap_eq_nil_iff.mpr passes]
  rfl

/-- The matrices that the buffers of a problem hold. -/
noncomputable def matrices (inputs : Buffers ℝ) (problem : Problem) : Matrices where
  rows := problem.extents.row.toNat
  columns := problem.extents.column.toNat
  head := problem.extents.head.toNat
  q := inputs.matrix problem .q
  k := inputs.matrix problem .k
  v := inputs.matrix problem .v
  dO := inputs.matrix problem .dO

end Buffers

theorem Buffers.check_map (inputs : Buffers ℝ) (problem : Problem) (operands : List Operand)
    (matrices : .dST ∉ operands)
    (long : ∀ operand ∈ operands, (problem.layout operand).size ≤ (inputs.get operand).size) :
    (inputs.map Real.toEReal).check problem operands = .ok () := by
  refine check_ok _ problem _ fun operand member => ⟨fun same => matrices (same ▸ member), ?_⟩
  rw [get_map, Array.size_map]
  exact long operand member

namespace Reference

variable (problem : Problem) (inputs : Buffers ℝ)

/-- The reference evaluates the formulas. -/
theorem forward_real (some : 0 < (inputs.matrices problem).columns)
    (long : ∀ operand ∈ [Operand.q, .k, .v], (problem.layout operand).size ≤ (inputs.get operand).size) :
    forward problem (inputs.map Real.toEReal) =
      .ok ⟨realRows (inputs.matrices problem).rows (inputs.matrices problem).head (inputs.matrices problem).output,
        realRow (inputs.matrices problem).rows (inputs.matrices problem).logSum⟩ := by
  obtain ⟨m, isM⟩ : ∃ m, m = inputs.matrices problem := ⟨_, rfl⟩
  have isHead : problem.extents.head.toNat = m.head := by rw [isM]; rfl
  have queries : (inputs.map Real.toEReal).rows problem .q = .ok (realRows m.rows m.head m.q) :=
    isM ▸ (Buffers.holds_map (long .q (by simp))).rows
  have keys : (inputs.map Real.toEReal).rows problem .k = .ok (realRows m.columns m.head m.k) :=
    isM ▸ (Buffers.holds_map (long .k (by simp))).rows
  have values : (inputs.map Real.toEReal).rows problem .v = .ok (realRows m.columns m.head m.v) :=
    isM ▸ (Buffers.holds_map (long .v (by simp))).rows
  rw [← isM] at some ⊢
  rw [forward, Buffers.check_map inputs problem _ (by simp) long, ok_bind, queries, ok_bind, keys, ok_bind, values,
    ok_bind, isHead, attentionRows_real m some]
  refine congrArg Except.ok ?_
  rw [outputRows_real, List.map_map]
  congr 1
  refine List.map_congr_left fun row _ => ?_
  refine (EReal.coe_mul _ _).symm.trans ?_
  rw [log_mul_logTwoEuler]
  rfl

/-- So do its derivatives. -/
theorem backward_real (some : 0 < (inputs.matrices problem).columns)
    (long : ∀ operand ∈ [Operand.q, .k, .v, .dO], (problem.layout operand).size ≤ (inputs.get operand).size) :
    backward problem (inputs.map Real.toEReal) = .ok {
      dQ := realRows (inputs.matrices problem).rows (inputs.matrices problem).head
        ((inputs.matrices problem).result .dQ)
      dK := realRows (inputs.matrices problem).columns (inputs.matrices problem).head
        ((inputs.matrices problem).result .dK)
      dV := realRows (inputs.matrices problem).columns (inputs.matrices problem).head
        ((inputs.matrices problem).result .dV)
      d := realRow (inputs.matrices problem).rows (inputs.matrices problem).rowTerm } := by
  obtain ⟨m, isM⟩ : ∃ m, m = inputs.matrices problem := ⟨_, rfl⟩
  have isHead : problem.extents.head.toNat = m.head := by rw [isM]; rfl
  have isWidth : problem.extents.column.toNat = m.columns := by rw [isM]; rfl
  have queries : (inputs.map Real.toEReal).rows problem .q = .ok (realRows m.rows m.head m.q) :=
    isM ▸ (Buffers.holds_map (long .q (by simp))).rows
  have keys : (inputs.map Real.toEReal).rows problem .k = .ok (realRows m.columns m.head m.k) :=
    isM ▸ (Buffers.holds_map (long .k (by simp))).rows
  have values : (inputs.map Real.toEReal).rows problem .v = .ok (realRows m.columns m.head m.v) :=
    isM ▸ (Buffers.holds_map (long .v (by simp))).rows
  have outputDerivatives : (inputs.map Real.toEReal).rows problem .dO = .ok (realRows m.rows m.head m.dO) :=
    isM ▸ (Buffers.holds_map (long .dO (by simp))).rows
  have probabilities : ((List.range m.rows).map (realSoftmax m)).map (·.probabilities) =
      realRows m.rows m.columns m.probability := List.map_map
  have derivatives : (List.range m.rows).map (fun row => scoreDerivatives m.head (realRows m.columns m.head m.v)
      (realSoftmax m row) (realRow m.head (m.dO row)) (m.rowTerm row : EReal)) =
        realRows m.rows m.columns m.scoreDerivative :=
    List.map_congr_left fun row _ => scoreDerivatives_real m row
  rw [← isM] at some ⊢
  rw [backward, Buffers.check_map inputs problem _ (by simp) long, ok_bind, queries, ok_bind, keys, ok_bind, values,
    ok_bind, outputDerivatives, ok_bind, isHead, isWidth, attentionRows_real m some]
  refine congrArg Except.ok ?_
  rw [outputRows_real, rowTerms_real]
  simp only [zip_real]
  rw [derivatives, probabilities, columns_real, columns_real, weightedSums_real, weightedSums_real, weightedSums_real]
  rfl

end Reference

end KernelForge.Attention
