import KernelForge.Proofs.Attention.Schedule

/-!
Attention does not see how its matrices are stored. Two problems that differ in nothing but which matrices have the
head dimension first, and buffers that hold the same matrices in the layouts of the two, run side by side: each load
finds the same row, each store keeps the matrices the same, and what is no matrix is the same array throughout. The two
runs fail alike or end in buffers that hold the same matrices again, for every kernel and every pass, and the reference
does not tell the problems apart either.
-/

namespace KernelForge

variable {α β γ δ ζ ε ι : Type}

/-- Two computations that fail alike or give related results. -/
inductive Matched (relation : β → γ → Prop) : Except ε β → Except ε γ → Prop
  | failed (failure : ε) : Matched relation (.error failure) (.error failure)
  | returned {first : β} {second : γ} (related : relation first second) : Matched relation (.ok first) (.ok second)

namespace Matched

theorem same (relation : β → β → Prop) (result : Except ε β) (each : ∀ value, result = .ok value → relation value value) :
    Matched relation result result := by
  cases result with
  | error failure => exact .failed failure
  | ok value => exact .returned (each value rfl)

theorem bind {relation : β → γ → Prop} {later : δ → ζ → Prop} {first : Except ε β} {second : Except ε γ}
    {next : β → Except ε δ} {next' : γ → Except ε ζ} (matched : Matched relation first second)
    (each : ∀ value value', relation value value' → Matched later (next value) (next' value')) :
    Matched later (first >>= next) (second >>= next') := by
  cases matched with
  | failed failure => exact .failed failure
  | returned related => exact each _ _ related

theorem mono {relation later : β → γ → Prop} {first : Except ε β} {second : Except ε γ}
    (matched : Matched relation first second) (weaken : ∀ value value', relation value value' → later value value') :
    Matched later first second := by
  cases matched with
  | failed failure => exact .failed failure
  | returned related => exact .returned (weaken _ _ related)

/-- Loops whose steps keep a relation end related. -/
theorem foldlM (relation : β → γ → Prop) {step : β → ι → Except ε β} {step' : γ → ι → Except ε γ} {items : List ι}
    (each : ∀ item ∈ items, ∀ state state', relation state state' →
      Matched relation (step state item) (step' state' item))
    {state : β} {state' : γ} (begins : relation state state') :
    Matched relation (items.foldlM step state) (items.foldlM step' state') := by
  induction items generalizing state state' with
  | nil => exact .returned begins
  | cons head tail ih =>
    rw [List.foldlM_cons, List.foldlM_cons]
    apply (each head (by simp) state state' begins).bind
    intro next next' related
    exact ih (fun item member => each item (by simp [member])) related

end Matched

end KernelForge

namespace KernelForge.Attention

open Register SoftmaxRegister

/-! ### The same matrix in two layouts -/

/-- The same problem with its matrices stored in another way. -/
def Problem.relaid (problem : Problem) (transpose : Transpose) : Problem :=
  { problem with transpose := transpose }

/-- The matrices along a sequence. -/
def Operand.matrices : List Operand := [.q, .k, .v, .o, .dO, .dQ, .dK, .dV]

/-- The row terms and the stored derivative of the scores, which are never transposed. -/
def Operand.untransposed : List Operand := [.l, .d, .dST]

theorem Operand.untransposed_ne_matrix : ∀ vector ∈ untransposed, ∀ matrix ∈ matrices, vector ≠ matrix := by
  decide

theorem KernelType.mem_operands_forward {type : KernelType} (isForward : type.pass = .forward) :
    ∀ operand ∈ [Operand.q, .k, .v, .o], operand ∈ type.operands.toList := by
  obtain ⟨pass, secondary⟩ := type
  subst isForward
  cases secondary <;> decide

theorem KernelType.mem_operands_query {type : KernelType} (isQuery : type.pass = .backwardQuery) :
    (∀ operand ∈ [Operand.o, .dO], operand ∈ type.operands.toList) ∧
      (type.secondary = true → ∀ operand ∈ [Operand.q, .k, .v, .dO, .dQ], operand ∈ type.operands.toList) := by
  obtain ⟨pass, secondary⟩ := type
  subst isQuery
  cases secondary <;> decide

theorem KernelType.mem_operands_keyValue {type : KernelType} (isKey : type.pass = .backwardKeyValue) :
    (∀ operand ∈ [Operand.q, .k, .v, .dO, .dV], operand ∈ type.operands.toList) ∧
      (type.secondary = true → .dK ∈ type.operands.toList) := by
  obtain ⟨pass, secondary⟩ := type
  subst isKey
  cases secondary <;> decide

/-- No pass has a buffer for what is only in registers. -/
theorem KernelType.operands_subset (type : KernelType) :
    type.operands.toList ⊆ Operand.matrices ++ Operand.untransposed := by
  unfold operands
  split
  · split <;> decide
  · split
    · split <;> decide
    · split
      · split <;> decide
      · decide

/-- Two arrays of one length hold the same matrix, each in its layout, if they have room for it. -/
structure Layout.SameMatrix {α : Type} (layout layout' : Layout) (content content' : Array α) : Prop where
  size : content'.size = content.size
  entry : layout.size ≤ content.size → ∀ index < layout.length, ∀ dimension < layout.head,
    content'[layout'.position index dimension]? = content[layout.position index dimension]?

/-- Buffers hold the same matrices, the second ones in the layouts of the second problem, and the same vectors. -/
structure Buffers.SameMatrices {α : Type} (problem problem' : Problem) (buffers buffers' : Buffers α) : Prop where
  matrix : ∀ operand ∈ Operand.matrices,
    (problem.layout operand).SameMatrix (problem'.layout operand) (buffers.get operand) (buffers'.get operand)
  vector : ∀ operand ∈ Operand.untransposed, buffers'.get operand = buffers.get operand

namespace Problem

variable (problem : Problem) (transpose : Transpose) (operand : Operand)

@[simp]
theorem extents_relaid : (problem.relaid transpose).extents = problem.extents := rfl

@[simp]
theorem length_relaid : ((problem.relaid transpose).layout operand).length = (problem.layout operand).length := by
  cases operand <;> rfl

@[simp]
theorem head_relaid : ((problem.relaid transpose).layout operand).head = (problem.layout operand).head := by
  cases operand <;> rfl

@[simp]
theorem bufferSize_relaid : (problem.relaid transpose).bufferSize operand = problem.bufferSize operand := by
  cases operand <;> rfl

end Problem

/-- Writing an entry of the matrix in both layouts. -/
theorem Layout.SameMatrix.writeCell {α : Type} {layout layout' : Layout} {content content' : Array α}
    (same : layout.SameMatrix layout' content content') (isLength : layout'.length = layout.length)
    (isHead : layout'.head = layout.head) (long : layout.size ≤ content.size) {index dimension : Nat}
    (inLength : index < layout.length) (inHead : dimension < layout.head) (value : α) :
    ∃ next next', KernelForge.writeCell content (layout.position index dimension) value = .ok next ∧
      KernelForge.writeCell content' (layout'.position index dimension) value = .ok next' ∧
      next.size = content.size ∧ layout.SameMatrix layout' next next' := by
  have inside : layout.position index dimension < content.size :=
    Nat.lt_of_lt_of_le (Layout.position_lt inLength inHead) long
  have inside' : layout'.position index dimension < content'.size := by
    have below := Layout.position_lt (isLength ▸ inLength) (isHead ▸ inHead)
    rw [Layout.size, isLength, isHead] at below
    rw [same.size]
    exact Nat.lt_of_lt_of_le below long
  refine ⟨_, _, if_pos inside, if_pos inside', Array.size_setIfInBounds, ?_, ?_⟩
  · rw [Array.size_setIfInBounds, Array.size_setIfInBounds, same.size]
  · intro _ other inLength' otherDimension inHead'
    by_cases here : other = index ∧ otherDimension = dimension
    · obtain ⟨rfl, rfl⟩ := here
      rw [Array.getElem?_setIfInBounds_self_of_lt inside, Array.getElem?_setIfInBounds_self_of_lt inside']
    · have apart : layout.position index dimension ≠ layout.position other otherDimension := fun equal =>
        here (Layout.position_injective inLength' inHead' inLength inHead equal.symm)
      have apart' : layout'.position index dimension ≠ layout'.position other otherDimension := by
        intro equal
        rw [← isLength] at inLength inLength'
        rw [← isHead] at inHead inHead'
        exact here (Layout.position_injective inLength' inHead' inLength inHead equal.symm)
      rw [Array.getElem?_setIfInBounds_ne apart, Array.getElem?_setIfInBounds_ne apart']
      exact same.entry long other inLength' otherDimension inHead'

namespace Buffers

variable {α : Type} {problem : Problem} {transpose : Transpose} {buffers buffers' : Buffers α}

namespace SameMatrices

theorem size (same : SameMatrices problem (problem.relaid transpose) buffers buffers') {operand : Operand}
    (held : operand ∈ Operand.matrices ++ Operand.untransposed) :
    (buffers'.get operand).size = (buffers.get operand).size := by
  rcases List.mem_append.mp held with matrix | vector
  · exact (same.matrix operand matrix).size
  · rw [same.vector operand vector]

/-- The check of the lengths finds the same defects. -/
theorem check (same : SameMatrices problem (problem.relaid transpose) buffers buffers') {operands : List Operand}
    (held : operands ⊆ Operand.matrices ++ Operand.untransposed) :
    buffers'.check (problem.relaid transpose) operands = buffers.check problem operands := by
  have defects : ∀ operand ∈ operands,
      BufferDefect.check operand.name (buffers'.get operand) ((problem.relaid transpose).bufferSize operand) =
        BufferDefect.check operand.name (buffers.get operand) (problem.bufferSize operand) := by
    intro operand member
    rw [BufferDefect.check, BufferDefect.check, same.size (held member), problem.bufferSize_relaid]
  unfold Buffers.check
  rw [List.flatMap_congr defects]

theorem row (same : SameMatrices problem (problem.relaid transpose) buffers buffers') {operand : Operand}
    (matrix : operand ∈ Operand.matrices) (long : (problem.layout operand).size ≤ (buffers.get operand).size)
    {index : Nat} (inside : index < (problem.layout operand).length) :
    buffers'.row (problem.relaid transpose) operand index = buffers.row problem operand index := by
  dsimp only [Buffers.row]
  rw [problem.head_relaid]
  apply mapM_congr
  intro dimension member
  have inHead := List.mem_range.mp member
  have within := Nat.lt_of_lt_of_le (Layout.position_lt inside inHead) long
  obtain ⟨value, found, read⟩ := readCell_total within
  rw [read]
  exact readCell_ok (((same.matrix operand matrix).entry long index inside dimension inHead).trans found)

theorem rows (same : SameMatrices problem (problem.relaid transpose) buffers buffers') (operand : Operand)
    (matrix : operand ∈ Operand.matrices) (long : (problem.layout operand).size ≤ (buffers.get operand).size) :
    buffers'.rows (problem.relaid transpose) operand = buffers.rows problem operand := by
  unfold Buffers.rows
  rw [problem.length_relaid]
  apply mapM_congr
  intro index member
  exact same.row matrix long (List.mem_range.mp member)

/-- One matrix exchanged for another that is the same in both layouts. -/
theorem set_matrix (same : SameMatrices problem (problem.relaid transpose) buffers buffers') {operand : Operand}
    (matrix : operand ∈ Operand.matrices) {content content' : Array α}
    (exchanged : (problem.layout operand).SameMatrix ((problem.relaid transpose).layout operand) content content') :
    SameMatrices problem (problem.relaid transpose) (buffers.set operand content) (buffers'.set operand content') := by
  have apart : ∀ other ∈ Operand.untransposed, other ≠ operand := fun other vector =>
    Operand.untransposed_ne_matrix other vector operand matrix
  refine ⟨?_, ?_⟩
  · intro other member
    by_cases here : other = operand
    · subst here
      rw [get_set_self, get_set_self]
      exact exchanged
    · rw [get_set_of_ne _ here, get_set_of_ne _ here]
      exact same.matrix other member
  · intro other member
    rw [get_set_of_ne _ (apart other member), get_set_of_ne _ (apart other member)]
    exact same.vector other member

theorem set_vector (same : SameMatrices problem (problem.relaid transpose) buffers buffers') {operand : Operand}
    (vector : operand ∈ Operand.untransposed) (content : Array α) :
    SameMatrices problem (problem.relaid transpose) (buffers.set operand content) (buffers'.set operand content) := by
  have apart : ∀ other ∈ Operand.matrices, other ≠ operand := fun other matrix =>
    (Operand.untransposed_ne_matrix operand vector other matrix).symm
  refine ⟨?_, ?_⟩
  · intro other member
    rw [get_set_of_ne _ (apart other member), get_set_of_ne _ (apart other member)]
    exact same.matrix other member
  · intro other member
    by_cases here : other = operand
    · subst here
      rw [get_set_self, get_set_self]
    · rw [get_set_of_ne _ here, get_set_of_ne _ here]
      exact same.vector other member

theorem map {β : Type} (same : SameMatrices problem (problem.relaid transpose) buffers buffers') (change : α → β) :
    SameMatrices problem (problem.relaid transpose) (buffers.map change) (buffers'.map change) := by
  refine ⟨?_, ?_⟩
  · intro operand matrix
    have held := same.matrix operand matrix
    rw [get_map, get_map]
    refine ⟨by rw [Array.size_map, Array.size_map, held.size], ?_⟩
    intro long index inLength dimension inHead
    rw [Array.size_map] at long
    rw [Array.getElem?_map, Array.getElem?_map, held.entry long index inLength dimension inHead]
  · intro operand vector
    rw [get_map, get_map, same.vector operand vector]

end SameMatrices

end Buffers

namespace Reference

variable {β : Type} [Exponential β] {problem : Problem} {transpose : Transpose} {buffers buffers' : Buffers β}

theorem forward_relaid (same : buffers.SameMatrices problem (problem.relaid transpose) buffers') :
    forward (problem.relaid transpose) buffers' = forward problem buffers := by
  unfold forward
  rw [same.check (by decide)]
  cases checked : buffers.check problem [.q, .k, .v] with
  | error failure => rw [error_bind, error_bind]
  | ok passed =>
    have queries := same.rows .q (by decide) (Buffers.long_of_check checked (by decide) (by decide))
    have keys := same.rows .k (by decide) (Buffers.long_of_check checked (by decide) (by decide))
    have values := same.rows .v (by decide) (Buffers.long_of_check checked (by decide) (by decide))
    rw [queries, keys, values, problem.extents_relaid]

theorem backward_relaid (same : buffers.SameMatrices problem (problem.relaid transpose) buffers') :
    backward (problem.relaid transpose) buffers' = backward problem buffers := by
  unfold backward
  rw [same.check (by decide)]
  cases checked : buffers.check problem [.q, .k, .v, .dO] with
  | error failure => rw [error_bind, error_bind]
  | ok passed =>
    have queries := same.rows .q (by decide) (Buffers.long_of_check checked (by decide) (by decide))
    have keys := same.rows .k (by decide) (Buffers.long_of_check checked (by decide) (by decide))
    have values := same.rows .v (by decide) (Buffers.long_of_check checked (by decide) (by decide))
    have derivatives := same.rows .dO (by decide) (Buffers.long_of_check checked (by decide) (by decide))
    rw [queries, keys, values, derivatives, problem.extents_relaid]

end Reference

namespace Launch

/-- The same kernel on the same problem with its matrices stored in another way. -/
def relaid (launch : Launch) (transpose : Transpose) : Launch :=
  { launch with problem := launch.problem.relaid transpose }

/-- Two runs on the way: the buffers hold the same matrices and are as long as they were at the start, where there was
    room for every matrix of the pass. -/
structure Paired {α : Type} (launch : Launch) (transpose : Transpose) (start held held' : Buffers α) : Prop where
  same : held.SameMatrices launch.problem (launch.problem.relaid transpose) held'
  size : ∀ operand, (held.get operand).size = (start.get operand).size
  long : ∀ operand ∈ launch.kernel.descriptor.type.operands.toList, operand ≠ .dST →
    (launch.problem.layout operand).size ≤ (start.get operand).size

variable {α : Type} [SoftmaxRegister α] {launch : Launch} {transpose : Transpose} {start held held' : Buffers α}

/-! ### Loads -/

namespace Paired

section Loads

variable (paired : launch.Paired transpose start held held') {operand : Operand}
  (matrix : operand ∈ Operand.matrices) (used : operand ∈ launch.kernel.descriptor.type.operands.toList)

include paired matrix used

omit [SoftmaxRegister α] in
theorem room : (launch.problem.layout operand).size ≤ (held.get operand).size := by
  rw [paired.size]
  refine paired.long operand used ?_
  rintro rfl
  exact absurd matrix (by decide)

omit [SoftmaxRegister α] in
theorem row {index : Nat} (inside : index < (launch.problem.layout operand).length) :
    held'.row (launch.relaid transpose).problem operand index = held.row launch.problem operand index :=
  paired.same.row matrix (paired.room matrix used) inside

theorem loadRow (index : Nat) :
    (launch.relaid transpose).loadRow held' operand index = launch.loadRow held operand index := by
  unfold Launch.loadRow
  rw [show (launch.relaid transpose).problem = launch.problem.relaid transpose from rfl, Problem.length_relaid]
  split
  · rfl
  · rename_i inside
    rw [paired.same.row matrix (paired.room matrix used) (Nat.not_le.mp inside)]
    rfl

theorem loadRows (first : Nat) :
    (launch.relaid transpose).loadRows held' operand first = launch.loadRows held operand first := by
  apply mapM_congr
  intro offset _
  exact paired.loadRow matrix used (first + offset)

end Loads

theorem loadRowTerm (paired : launch.Paired transpose start held held') (operand : Operand)
    (vector : operand ∈ Operand.untransposed) (index : Nat) :
    (launch.relaid transpose).loadRowTerm held' operand index = launch.loadRowTerm held operand index := by
  unfold Launch.loadRowTerm
  rw [paired.same.vector operand vector]
  rfl

/-! ### Stores -/

omit [SoftmaxRegister α] in
theorem set {operand : Operand} {content content' : Array α} (paired : launch.Paired transpose start held held')
    (isSize : content.size = (held.get operand).size)
    (same : (held.set operand content).SameMatrices launch.problem (launch.problem.relaid transpose)
      (held'.set operand content')) :
    launch.Paired transpose start (held.set operand content) (held'.set operand content') := by
  refine ⟨same, ?_, paired.long⟩
  intro other
  rw [← paired.size]
  by_cases here : other = operand
  · subst here
    rw [Buffers.get_set_self, isSize]
  · rw [Buffers.get_set_of_ne _ here]

theorem storeCell (paired : launch.Paired transpose start held held') {operand : Operand}
    (vector : operand ∈ Operand.untransposed) (index : Nat) (value : α) :
    Matched (launch.Paired transpose start) (launch.storeCell operand index value held)
      ((launch.relaid transpose).storeCell operand index value held') := by
  unfold Launch.storeCell Buffers.setCell
  rw [paired.same.vector operand vector]
  refine Matched.bind (Matched.same (fun content content' => content = content' ∧
    content.size = (held.get operand).size) _ fun content stored => ⟨rfl, size_of_writeCell stored⟩) ?_
  rintro content _ ⟨rfl, isSize⟩
  exact .returned (paired.set isSize (paired.same.set_vector vector content))

theorem storeRow (paired : launch.Paired transpose start held held') {operand : Operand}
    (matrix : operand ∈ Operand.matrices) (used : operand ∈ launch.kernel.descriptor.type.operands.toList)
    {index : Nat} (inside : index < (launch.problem.layout operand).length) {values : List α}
    (full : values.length = (launch.problem.layout operand).head) :
    Matched (launch.Paired transpose start) (launch.storeRow operand index values held)
      ((launch.relaid transpose).storeRow operand index values held') := by
  have room := paired.room matrix used
  dsimp only [Launch.storeRow, Buffers.setRow, relaid]
  refine Matched.bind (Matched.foldlM (fun content content' =>
    content.size = (held.get operand).size ∧ (launch.problem.layout operand).SameMatrix
      ((launch.problem.relaid transpose).layout operand) content content') ?_ ⟨rfl, paired.same.matrix operand matrix⟩) ?_
  · rintro ⟨value, dimension⟩ member content content' ⟨isSize, same⟩
    have inHead := List.snd_lt_of_mem_zipIdx member
    rw [List.length_map, full, Nat.add_zero] at inHead
    obtain ⟨next, next', stored, stored', kept, sameNext⟩ := same.writeCell (Problem.length_relaid ..)
      (Problem.head_relaid ..) (isSize ▸ room) inside inHead value
    rw [stored, stored']
    exact .returned ⟨kept.trans isSize, sameNext⟩
  · rintro content content' ⟨isSize, same⟩
    exact .returned (paired.set isSize (paired.same.set_matrix matrix same))

end Paired

/-! ### Every row is full -/

theorem length_of_loadRow {operand : Operand} (isHead : (launch.problem.layout operand).head = launch.head)
    {index : Nat} {row : List α} (loaded : launch.loadRow held operand index = .ok row) : row.length = launch.head := by
  unfold loadRow at loaded
  split at loaded
  · cases loaded
    exact List.length_replicate ..
  · obtain ⟨read, traversed, equal⟩ := bind_ok_iff.mp loaded
    cases equal
    rw [List.length_map, ← (forall₂_of_mapM traversed).length_eq, List.length_range, isHead]

theorem length_of_mem_loadRows {operand : Operand} (isHead : (launch.problem.layout operand).head = launch.head)
    {first : Nat} {rows : List (List α)} (loaded : launch.loadRows held operand first = .ok rows) :
    ∀ row ∈ rows, row.length = launch.head := by
  intro row member
  obtain ⟨offset, -, read⟩ := exists_left_of_forall₂ (forall₂_of_mapM loaded) member
  exact length_of_loadRow isHead read

/-- Rows of the width of a sum leave it as wide as it is. -/
theorem length_summed (launch : Launch) (sum : Operand) {registers : List α} (full : registers.length = launch.head)
    (weights : List α) {rows : List (List α)} (wide : ∀ row ∈ rows, row.length = launch.head) :
    (accumulateRows (launch.kernel.register sum) registers (weights.zip rows)).length = launch.head := by
  rw [length_accumulateRows, full]
  rintro ⟨weight, row⟩ member
  rw [wide row (List.of_mem_zip member).2, full]

theorem length_advance {running : Running α} (full : running.output.length = launch.head) (first : Nat)
    (scores : List α) {values : List (List α)} (wide : ∀ row ∈ values, row.length = launch.head) :
    (launch.advance running first scores values).output.length = launch.head := by
  dsimp only [advance]
  rw [length_betweenSteps, apply_ite List.length, scaleRow, List.length_map, ite_self, length_summed launch .o _ _ wide]
  split
  · exact full
  · exact (List.length_map _).trans full

theorem length_of_forwardRow {index : Nat} {running : Running α}
    (computed : launch.forwardRow held index = .ok running) : running.output.length = launch.head := by
  obtain ⟨query, -, reached⟩ := bind_ok_iff.mp computed
  refine foldlM_keeps (fun running : Running α => running.output.length = launch.head)
    (fun first _ state next full stepped => ?_) (List.length_replicate ..) reached
  obtain ⟨keys, -, rest⟩ := bind_ok_iff.mp stepped
  obtain ⟨values, loaded, equal⟩ := bind_ok_iff.mp rest
  cases equal
  exact length_advance full first _ (length_of_mem_loadRows rfl loaded)

theorem length_of_queryDerivative {index : Nat} {rowTerm : α} {derivative : List α}
    (computed : launch.queryDerivative held index rowTerm = .ok derivative) : derivative.length = launch.head := by
  obtain ⟨logSum, -, rest⟩ := bind_ok_iff.mp computed
  obtain ⟨query, -, rest⟩ := bind_ok_iff.mp rest
  obtain ⟨outputDerivative, -, reached⟩ := bind_ok_iff.mp rest
  refine foldlM_keeps (fun held : List α => held.length = launch.head)
    (fun first _ state next full stepped => ?_) (List.length_replicate ..) reached
  obtain ⟨keys, loaded, rest⟩ := bind_ok_iff.mp stepped
  obtain ⟨values, -, equal⟩ := bind_ok_iff.mp rest
  cases equal
  rw [length_betweenSteps, length_summed launch .dQ full _ (length_of_mem_loadRows rfl loaded)]

/-! ### The passes -/

namespace Paired

theorem forwardRow (paired : launch.Paired transpose start held held')
    (isForward : launch.kernel.descriptor.type.pass = .forward) (index : Nat) :
    (launch.relaid transpose).forwardRow held' index = launch.forwardRow held index := by
  have used := KernelType.mem_operands_forward isForward
  have query := paired.loadRow (by decide) (used .q (by decide)) index
  have keys := paired.loadRows (by decide) (used .k (by decide))
  have values := paired.loadRows (by decide) (used .v (by decide))
  simp only [Launch.forwardRow, query, keys, values]
  rfl

theorem runForward (paired : launch.Paired transpose start held held')
    (isForward : launch.kernel.descriptor.type.pass = .forward) {index : Nat} (inside : index < launch.rowCount) :
    Matched (launch.Paired transpose start) (launch.runForward index held)
      ((launch.relaid transpose).runForward index held') := by
  unfold Launch.runForward
  rw [paired.forwardRow isForward]
  refine Matched.bind (Matched.same (fun running running' => running = running' ∧
    running.output.length = launch.head) _ fun running computed => ⟨rfl, length_of_forwardRow computed⟩) ?_
  rintro running _ ⟨rfl, full⟩
  have used := KernelType.mem_operands_forward isForward .o (by decide)
  refine (paired.storeRow (by decide) used inside full).bind fun stored stored' later => ?_
  change Matched _ (if launch.kernel.descriptor.type.secondary then _ else _)
    (if launch.kernel.descriptor.type.secondary then _ else _)
  split
  · exact later.storeCell (by decide) index _
  · exact .returned later

theorem rowTerm (paired : launch.Paired transpose start held held')
    (isQuery : launch.kernel.descriptor.type.pass = .backwardQuery) {index : Nat} (inside : index < launch.rowCount) :
    (launch.relaid transpose).rowTerm held' index = launch.rowTerm held index := by
  have used := KernelType.mem_operands_query isQuery
  have derivative := paired.row (by decide) (used.1 .dO (by decide)) inside
  have output := paired.row (by decide) (used.1 .o (by decide)) inside
  rw [Launch.rowTerm, derivative, output]
  rfl

theorem queryDerivative (paired : launch.Paired transpose start held held')
    (isQuery : launch.kernel.descriptor.type.pass = .backwardQuery)
    (secondary : launch.kernel.descriptor.type.secondary = true) (index : Nat) (rowTerm : α) :
    (launch.relaid transpose).queryDerivative held' index rowTerm = launch.queryDerivative held index rowTerm := by
  have used := (KernelType.mem_operands_query isQuery).2 secondary
  have logSum := paired.same.vector .l (by decide)
  have query := paired.loadRow (by decide) (used .q (by decide)) index
  have derivative := paired.loadRow (by decide) (used .dO (by decide)) index
  have keys := paired.loadRows (by decide) (used .k (by decide))
  have values := paired.loadRows (by decide) (used .v (by decide))
  simp only [Launch.queryDerivative, logSum, query, derivative, keys, values]
  rfl

theorem runBackwardQuery (paired : launch.Paired transpose start held held')
    (isQuery : launch.kernel.descriptor.type.pass = .backwardQuery) {index : Nat} (inside : index < launch.rowCount) :
    Matched (launch.Paired transpose start) (launch.runBackwardQuery index held)
      ((launch.relaid transpose).runBackwardQuery index held') := by
  unfold Launch.runBackwardQuery
  rw [paired.rowTerm isQuery inside]
  refine Matched.bind (Matched.same Eq _ fun _ _ => rfl) ?_
  rintro term _ rfl
  refine (paired.storeCell (by decide) index term).bind fun stored stored' later => ?_
  change Matched _ (if launch.kernel.descriptor.type.secondary then _ else _)
    (if launch.kernel.descriptor.type.secondary then _ else _)
  split
  · rename_i secondary
    rw [later.queryDerivative isQuery secondary]
    refine Matched.bind (Matched.same (fun derivative derivative' => derivative = derivative' ∧
      derivative.length = launch.head) _ fun derivative computed => ⟨rfl, length_of_queryDerivative computed⟩) ?_
    rintro derivative _ ⟨rfl, full⟩
    have used := (KernelType.mem_operands_query isQuery).2 secondary .dQ (by decide)
    exact later.storeRow (by decide) used inside full
  · exact .returned later

theorem keyStep (paired : launch.Paired transpose start held held') (key value : List α) (first : Nat)
    (queries derivatives : List (List α)) :
    (launch.relaid transpose).keyStep held' key value first queries derivatives =
      launch.keyStep held key value first queries derivatives := by
  have logSum := paired.loadRowTerm .l (by decide)
  have rowTerm := paired.loadRowTerm .d (by decide)
  simp only [Launch.keyStep, logSum, rowTerm]
  rfl

/-- What the two runs of a column have in common between two steps. -/
def Stepped (launch : Launch) (transpose : Transpose) (start : Buffers α) (state state' : KeySums α × Buffers α) : Prop :=
  state'.1 = state.1 ∧ (state.1.value.length = launch.head ∧ state.1.key.length = launch.head) ∧
    launch.Paired transpose start state.2 state'.2

theorem advanceKey (isKey : launch.kernel.descriptor.type.pass = .backwardKeyValue) (index : Nat) (key value : List α)
    (first : Nat) {state state' : KeySums α × Buffers α} (stepped : Stepped launch transpose start state state') :
    Matched (Stepped launch transpose start) (launch.advanceKey index key value first state)
      ((launch.relaid transpose).advanceKey index key value first state') := by
  obtain ⟨sums, held⟩ := state
  obtain ⟨_, held'⟩ := state'
  obtain ⟨rfl, ⟨fullValue, fullKey⟩, paired⟩ := stepped
  have used := (KernelType.mem_operands_keyValue isKey).1
  dsimp only [Launch.advanceKey]
  rw [paired.loadRows (by decide) (used .q (by decide)), paired.loadRows (by decide) (used .dO (by decide))]
  refine Matched.bind (Matched.same (fun queries queries' => queries = queries' ∧
    ∀ row ∈ queries, row.length = launch.head) _ fun _ loaded => ⟨rfl, length_of_mem_loadRows rfl loaded⟩) ?_
  rintro queries _ ⟨rfl, wideQueries⟩
  refine Matched.bind (Matched.same (fun derivatives derivatives' => derivatives = derivatives' ∧
    ∀ row ∈ derivatives, row.length = launch.head) _ fun _ loaded => ⟨rfl, length_of_mem_loadRows rfl loaded⟩) ?_
  rintro derivatives _ ⟨rfl, wideDerivatives⟩
  rw [paired.keyStep]
  refine Matched.bind (Matched.same Eq _ fun _ _ => rfl) ?_
  rintro pairs _ rfl
  have valueSum := (length_betweenSteps launch .dV _).trans
    (length_summed launch .dV fullValue (pairs.map (·.probability)) wideDerivatives)
  have keySum := (length_betweenSteps launch .dK _).trans
    (length_summed launch .dK fullKey (pairs.map (·.derivative)) wideQueries)
  change Matched _ (if launch.kernel.descriptor.type.secondary then _ else _)
    (if launch.kernel.descriptor.type.secondary then _ else _)
  split
  · exact .returned ⟨rfl, ⟨valueSum, keySum⟩, paired⟩
  · refine Matched.bind (Matched.foldlM (launch.Paired transpose start) ?_ paired) ?_
    · rintro ⟨pair, offset⟩ _ middle middle' later
      change Matched _ (if first + offset < launch.rowCount then _ else _)
        (if first + offset < launch.rowCount then _ else _)
      split
      · exact later.storeCell (by decide) _ _
      · exact .returned later
    · intro stored stored' later
      exact .returned ⟨rfl, ⟨valueSum, fullKey⟩, later⟩

theorem runBackwardKeyValue (paired : launch.Paired transpose start held held')
    (isKey : launch.kernel.descriptor.type.pass = .backwardKeyValue) {index : Nat} (inside : index < launch.columnCount) :
    Matched (launch.Paired transpose start) (launch.runBackwardKeyValue index held)
      ((launch.relaid transpose).runBackwardKeyValue index held') := by
  have used := KernelType.mem_operands_keyValue isKey
  unfold Launch.runBackwardKeyValue
  rw [paired.loadRow (by decide) (used.1 .k (by decide)), paired.loadRow (by decide) (used.1 .v (by decide))]
  refine Matched.bind (Matched.same Eq _ fun _ _ => rfl) ?_
  rintro key _ rfl
  refine Matched.bind (Matched.same Eq _ fun _ _ => rfl) ?_
  rintro value _ rfl
  refine Matched.bind (Matched.foldlM (Stepped launch transpose start) ?_ ?_) ?_
  · intro first _ state state' stepped
    exact advanceKey isKey index key value first stepped
  · exact ⟨rfl, ⟨List.length_replicate .., List.length_replicate ..⟩, paired⟩
  · rintro ⟨sums, stored⟩ ⟨_, stored'⟩ ⟨rfl, ⟨fullValue, fullKey⟩, later⟩
    refine (later.storeRow (by decide) (used.1 .dV (by decide)) inside fullValue).bind fun _ _ last => ?_
    change Matched _ (if launch.kernel.descriptor.type.secondary then _ else _)
      (if launch.kernel.descriptor.type.secondary then _ else _)
    split
    · rename_i secondary
      exact last.storeRow (by decide) (used.2 secondary) inside fullKey
    · exact .returned last

theorem runRow (paired : launch.Paired transpose start held held')
    (valid : launch.kernel.descriptor.type.pass.isValid = true) {index : Nat} (inside : index < launch.parallelCount) :
    Matched (launch.Paired transpose start) (launch.runRow index held)
      ((launch.relaid transpose).runRow index held') := by
  have known : launch.kernel.descriptor.type.pass = .forward ∨ launch.kernel.descriptor.type.pass = .backwardQuery ∨
      launch.kernel.descriptor.type.pass = .backwardKeyValue := by
    have passes : ∀ type ∈ KernelType.all,
        type.pass = .forward ∨ type.pass = .backwardQuery ∨ type.pass = .backwardKeyValue := by decide
    exact passes _ (KernelType.mem_all valid)
  dsimp only [Launch.runRow, relaid]
  unfold Launch.parallelCount at inside
  split
  · rename_i isForward
    rw [isForward, if_neg (by decide)] at inside
    exact paired.runForward isForward inside
  · rename_i notForward
    split
    · rename_i isQuery
      rw [isQuery, if_neg (by decide)] at inside
      exact paired.runBackwardQuery isQuery inside
    · rename_i notQuery
      have isKey := (known.resolve_left notForward).resolve_left notQuery
      rw [if_pos isKey] at inside
      exact paired.runBackwardKeyValue isKey inside

/-- A threadgroup stays within the sequence that is divided, so each of its rows is there. -/
theorem runGroup (paired : launch.Paired transpose start held held')
    (valid : launch.kernel.descriptor.type.pass.isValid = true) (group : Nat) :
    Matched (launch.Paired transpose start) (launch.runGroup held group)
      ((launch.relaid transpose).runGroup held' group) := by
  refine Matched.foldlM (launch.Paired transpose start) ?_ paired
  intro index member middle middle' later
  have inside : index < launch.parallelCount := by
    rw [List.mem_range'_1] at member
    omega
  exact later.runRow valid inside

end Paired

omit [SoftmaxRegister α] in
theorem check_relaid (launch : Launch) (transpose : Transpose) {buffers buffers' : Buffers α}
    (same : buffers.SameMatrices launch.problem (launch.problem.relaid transpose) buffers') :
    (launch.relaid transpose).check buffers' = launch.check buffers := by
  have bound : launch.kernel.descriptor.type.operands.toList ⊆ Operand.matrices ++ Operand.untransposed :=
    KernelType.operands_subset _
  dsimp only [check, relaid]
  rw [same.check bound]
  rfl

omit [SoftmaxRegister α] in
theorem valid_of_check {buffers : Buffers α} (checked : launch.check buffers = .ok ()) :
    launch.kernel.descriptor.type.pass.isValid = true := by
  dsimp only [check] at checked
  split at checked
  · cases checked
  · split at checked
    · cases checked
    · obtain ⟨_, -, rest⟩ := bind_ok_iff.mp checked
      split at rest
      · assumption
      · cases rest

/-- Attention does not depend on how its matrices are stored. On buffers that hold the same matrices in two layouts a
    kernel fails alike or ends in buffers of the same lengths that hold the same matrices again, and the reference has
    the same output and the same derivatives. -/
theorem run_relaid {β : Type} [Exponential β] (wide : α → β) (kernel : Kernel) (problem : Problem)
    (transpose : Transpose) {buffers buffers' : Buffers α}
    (same : buffers.SameMatrices problem (problem.relaid transpose) buffers') :
    Matched (fun after after' => after.SameMatrices problem (problem.relaid transpose) after' ∧
        ∀ operand, (after.get operand).size = (buffers.get operand).size)
      (run ⟨kernel, problem⟩ buffers) (run ⟨kernel, problem.relaid transpose⟩ buffers') ∧
    Reference.forward (problem.relaid transpose) (buffers'.map wide) = Reference.forward problem (buffers.map wide) ∧
    Reference.backward (problem.relaid transpose) (buffers'.map wide) =
      Reference.backward problem (buffers.map wide) := by
  refine ⟨?_, Reference.forward_relaid (same.map wide), Reference.backward_relaid (same.map wide)⟩
  have checks : check ⟨kernel, problem.relaid transpose⟩ buffers' = check ⟨kernel, problem⟩ buffers :=
    check_relaid ⟨kernel, problem⟩ transpose same
  unfold run
  rw [checks]
  cases checked : check ⟨kernel, problem⟩ buffers with
  | error failure => exact .failed failure
  | ok passed =>
    have begins : Paired ⟨kernel, problem⟩ transpose buffers buffers buffers' :=
      ⟨same, fun _ => rfl, fun operand => Buffers.long_of_check (check_buffers checked)⟩
    have ended : Matched (Paired ⟨kernel, problem⟩ transpose buffers)
        (runGroups ⟨kernel, problem⟩ (List.range (kernel.grid problem.extents).toNat) buffers)
        (runGroups ⟨kernel, problem.relaid transpose⟩ (List.range (kernel.grid problem.extents).toNat) buffers') :=
      Matched.foldlM _ (fun group _ _ _ later => later.runGroup (valid_of_check checked) group) begins
    exact ended.mono fun _ _ paired => ⟨paired.same, paired.size⟩

/-- Three rows of nine, counted through. -/
def countedRows : Array Float32 := ((List.range 27).map Float32.ofNat).toArray

/-- The same rows with the head dimension first. -/
def countedColumns : Array Float32 :=
  ((List.range 27).map fun place => Float32.ofNat (place % 3 * 9 + place / 3)).toArray

/-- The scores of nine keys, with rows of queries that differ. -/
def countedBuffers : Buffers Float32 := nineKeysBuffers.set .q countedRows

/-- The same with the queries transposed. -/
def countedBuffersTransposed : Buffers Float32 := nineKeysBuffers.set .q countedColumns

theorem countedColumns_same :
    (⟨3, 9, false⟩ : Layout).SameMatrix ⟨3, 9, true⟩ countedRows countedColumns := by
  refine ⟨by simp [countedRows, countedColumns], ?_⟩
  intro _ index inLength dimension inHead
  change index < 3 at inLength
  change dimension < 9 at inHead
  have place : index * 9 + dimension < 27 := by omega
  have place' : dimension * 3 + index < 27 := by omega
  have counted : (dimension * 3 + index) % 3 * 9 + (dimension * 3 + index) / 3 = index * 9 + dimension := by omega
  change countedColumns[dimension * 3 + index]? = countedRows[index * 9 + dimension]?
  rw [countedColumns, countedRows, List.getElem?_toArray, List.getElem?_toArray, List.getElem?_map, List.getElem?_map,
    List.getElem?_range place, List.getElem?_range place', Option.map_some, Option.map_some, counted]

theorem countedBuffers_same :
    countedBuffers.SameMatrices nineKeys (nineKeys.relaid { q := true }) countedBuffersTransposed := by
  have others : ∀ operand ∈ Operand.matrices, operand ≠ .q → operand ≠ .dQ →
      (nineKeys.relaid { q := true }).layout operand = nineKeys.layout operand := by decide
  refine ⟨?_, ?_⟩
  · intro operand matrix
    by_cases isQuery : operand = .q
    · subst isQuery
      rw [countedBuffers, countedBuffersTransposed, Buffers.get_set_self, Buffers.get_set_self]
      exact countedColumns_same
    · rw [countedBuffers, countedBuffersTransposed, Buffers.get_set_of_ne _ isQuery, Buffers.get_set_of_ne _ isQuery]
      by_cases isDerivative : operand = .dQ
      · subst isDerivative
        exact ⟨rfl, fun long => absurd long (by decide)⟩
      · rw [others operand matrix isQuery isDerivative]
        exact ⟨rfl, fun _ _ _ _ _ => rfl⟩
  · intro operand vector
    have notQuery := Operand.untransposed_ne_matrix operand vector .q (by decide)
    rw [countedBuffers, countedBuffersTransposed, Buffers.get_set_of_ne _ notQuery, Buffers.get_set_of_ne _ notQuery]

theorem run_relaid_counted :
    countedBuffers.SameMatrices nineKeys (nineKeys.relaid { q := true }) countedBuffersTransposed ∧
    check ⟨narrowScores, nineKeys⟩ countedBuffers = .ok () ∧
    Matched (fun after after' => after.SameMatrices nineKeys (nineKeys.relaid { q := true }) after' ∧
        ∀ operand, (after.get operand).size = (countedBuffers.get operand).size)
      (run ⟨narrowScores, nineKeys⟩ countedBuffers)
      (run ⟨narrowScores, nineKeys.relaid { q := true }⟩ countedBuffersTransposed) ∧
    Reference.forward (nineKeys.relaid { q := true }) (countedBuffersTransposed.map Float32.toFloat) =
      Reference.forward nineKeys (countedBuffers.map Float32.toFloat) := by
  obtain ⟨matched, forward, -⟩ := run_relaid Float32.toFloat narrowScores nineKeys { q := true } countedBuffers_same
  exact ⟨countedBuffers_same, rfl, matched, forward⟩

end Launch

end KernelForge.Attention
