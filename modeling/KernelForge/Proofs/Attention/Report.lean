import KernelForge.Proofs.Attention.Schedule

/-!
The backward passes with a report of the attention matrix. No buffer holds the probabilities, and the derivatives of the
scores stay in registers as well unless they are asked for. So the passes are written here once more, step by step as
they run, with each step also handing out the places of the matrix that it formed. Without the report a run is the run
of the emulation, whatever it is run on. With it, a run on buffers that fit names every row, or column, once, together
with all its places.
-/

namespace KernelForge

variable {σ ι ρ ε : Type}

/-- A loop whose steps report what they formed. -/
def reportLoop (step : σ → ι → Except ε (σ × List ρ)) : List ι → σ → Except ε (σ × List ρ)
  | [], state => return (state, [])
  | item :: items, state => do
    let (next, formed) ← step state item
    let (last, later) ← reportLoop step items next
    return (last, formed ++ later)

/-- Without its reports it is a plain loop. -/
theorem map_reportLoop {step : σ → ι → Except ε (σ × List ρ)} {plain : σ → ι → Except ε σ}
    (each : ∀ state item, (step state item).map Prod.fst = plain state item) (items : List ι) (state : σ) :
    (reportLoop step items state).map Prod.fst = items.foldlM plain state := by
  induction items generalizing state with
  | nil => rfl
  | cons head tail ih =>
    rw [reportLoop, List.foldlM_cons]
    refine map_bind_of_map (each state head) fun ⟨next, formed⟩ => ?_
    dsimp only
    rw [← ih next]
    cases reportLoop step tail next <;> rfl

/-- As long as its steps keep an invariant on which their reports rest, all of them are there in the end. -/
theorem reportLoop_eq {step : σ → ι → Except ε (σ × List ρ)} (kept : σ → Prop) (report : ι → List ρ) (items : List ι)
    (state : σ) (holds : kept state)
    (each : ∀ item ∈ items, ∀ held, kept held → ∃ next, step held item = .ok (next, report item) ∧ kept next) :
    ∃ last, reportLoop step items state = .ok (last, items.flatMap report) ∧ kept last := by
  induction items generalizing state with
  | nil => exact ⟨state, rfl, holds⟩
  | cons head tail ih =>
    obtain ⟨next, stepped, holdsNext⟩ := each head (by simp) state holds
    obtain ⟨last, looped, holdsLast⟩ := ih next holdsNext fun item member => each item (by simp [member])
    refine ⟨last, ?_, holdsLast⟩
    rw [reportLoop, stepped, ok_bind]
    dsimp only
    rw [looped]
    rfl

theorem exists_report {result : Except ε (σ × ρ)} {state : σ} (plain : result.map Prod.fst = .ok state) :
    ∃ formed, result = .ok (state, formed) := by
  cases result with
  | error failure => cases plain
  | ok value =>
    obtain ⟨reached, formed⟩ := value
    obtain rfl : reached = state := Except.ok.inj plain
    exact ⟨formed, rfl⟩

end KernelForge

namespace KernelForge.Attention

open Buffers Register SoftmaxRegister

namespace Launch

variable {α : Type} [SoftmaxRegister α]

/-- The derivative of a query, and the row of the attention matrix. -/
def reportQueryDerivative (launch : Launch) (buffers : Buffers α) (index : Nat) (rowTerm : α) :
    Except Failure (List α × List (ScorePair α)) := do
  let logSum := round (launch.kernel.memory .l) (← readCell (buffers.get .l) index)
  let query ← launch.loadRow buffers .q index
  let outputDerivative ← launch.loadRow buffers .dO index
  reportLoop (fun held start => do
    let keys ← launch.loadRows buffers .k start
    let values ← launch.loadRows buffers .v start
    let pairs := launch.queryStep query outputDerivative logSum rowTerm keys values
    return (launch.betweenSteps .dQ
      (accumulateRows (launch.kernel.register .dQ) held ((pairs.map (·.derivative)).zip keys)), pairs))
    (launch.stepStarts launch.columnCount) (List.replicate launch.head Scalar.zero)

/-- One row of the pass for queries, and the row of the attention matrix. -/
def reportBackwardQuery (launch : Launch) (index : Nat) (buffers : Buffers α) :
    Except Failure (Buffers α × List (ScorePair α)) := do
  let term ← launch.rowTerm buffers index
  let stored ← launch.storeCell .d index term buffers
  if launch.kernel.descriptor.type.secondary then
    let (derivative, formed) ← launch.reportQueryDerivative stored index term
    let next ← launch.storeRow .dQ index derivative stored
    return (next, formed)
  else return (stored, [])

/-- One step of the pass for keys and values, and the places of the attention matrix. -/
def reportAdvanceKey (launch : Launch) (index : Nat) (key value : List α) (state : KeySums α × Buffers α)
    (start : Nat) : Except Failure ((KeySums α × Buffers α) × List (ScorePair α)) := do
  let (sums, buffers) := state
  let queries ← launch.loadRows buffers .q start
  let derivatives ← launch.loadRows buffers .dO start
  let pairs ← launch.keyStep buffers key value start queries derivatives
  let valueSum := launch.betweenSteps .dV
    (accumulateRows (launch.kernel.register .dV) sums.value ((pairs.map (·.probability)).zip derivatives))
  if launch.kernel.descriptor.type.secondary then
    let keySum := launch.betweenSteps .dK
      (accumulateRows (launch.kernel.register .dK) sums.key ((pairs.map (·.derivative)).zip queries))
    return ((⟨valueSum, keySum⟩, buffers), pairs)
  else
    let stride := launch.problem.scoreStride.toNat
    let stored ← pairs.zipIdx.foldlM (fun held (pair, offset) =>
      if start + offset < launch.rowCount then
        launch.storeCell .dST ((start + offset) * stride + index) pair.derivative held
      else return held) buffers
    return ((⟨valueSum, sums.key⟩, stored), pairs)

/-- One column of the pass for keys and values, and the column of the attention matrix. -/
def reportBackwardKeyValue (launch : Launch) (index : Nat) (buffers : Buffers α) :
    Except Failure (Buffers α × List (ScorePair α)) := do
  let key ← launch.loadRow buffers .k index
  let value ← launch.loadRow buffers .v index
  let ((sums, stored), formed) ← reportLoop (launch.reportAdvanceKey index key value)
    (launch.stepStarts launch.rowCount)
    (⟨List.replicate launch.head Scalar.zero, List.replicate launch.head Scalar.zero⟩, buffers)
  let withValue ← launch.storeRow .dV index sums.value stored
  if launch.kernel.descriptor.type.secondary then
    let next ← launch.storeRow .dK index sums.key withValue
    return (next, formed)
  else return (withValue, formed)

/-- One row, or column, of any pass. The forward pass has nothing to report. -/
def reportRow (launch : Launch) (index : Nat) (buffers : Buffers α) :
    Except Failure (Buffers α × List (ScorePair α)) :=
  let pass := launch.kernel.descriptor.type.pass
  if pass = .forward then (launch.runForward index buffers).map (·, [])
  else if pass = .backwardQuery then launch.reportBackwardQuery index buffers
  else launch.reportBackwardKeyValue index buffers

/-- One threadgroup, and the rows, or columns, that it formed. -/
def reportGroup (launch : Launch) (buffers : Buffers α) (group : Nat) :
    Except Failure (Buffers α × List (Nat × List (ScorePair α))) :=
  reportLoop (fun held index => (launch.reportRow index held).map fun (next, formed) => (next, [(index, formed)]))
    (launch.groupRows group) buffers

/-- A run, and all rows, or columns, that it formed. -/
def reportRun (launch : Launch) (buffers : Buffers α) :
    Except Failure (Buffers α × List (Nat × List (ScorePair α))) := do
  launch.check buffers
  reportLoop launch.reportGroup (List.range (launch.kernel.grid launch.problem.extents).toNat) buffers

/-! ### Without the report -/

theorem map_reportQueryDerivative (launch : Launch) (buffers : Buffers α) (index : Nat) (rowTerm : α) :
    (launch.reportQueryDerivative buffers index rowTerm).map Prod.fst =
      launch.queryDerivative buffers index rowTerm := by
  unfold reportQueryDerivative queryDerivative
  simp only [map_of_bind]
  refine bind_congr fun logSum => bind_congr fun query => bind_congr fun outputDerivative => ?_
  refine map_reportLoop (fun held start => ?_) _ _
  simp only [map_of_bind]
  rfl

theorem map_reportBackwardQuery (launch : Launch) (index : Nat) (buffers : Buffers α) :
    (launch.reportBackwardQuery index buffers).map Prod.fst = launch.runBackwardQuery index buffers := by
  unfold reportBackwardQuery runBackwardQuery
  simp only [map_of_bind]
  refine bind_congr fun term => bind_congr fun stored => ?_
  split
  · refine map_bind_of_map (launch.map_reportQueryDerivative ..) fun ⟨derivative, formed⟩ => ?_
    dsimp only
    cases launch.storeRow .dQ index derivative stored <;> rfl
  · rfl

theorem map_reportAdvanceKey (launch : Launch) (index : Nat) (key value : List α) (state : KeySums α × Buffers α)
    (start : Nat) :
    (launch.reportAdvanceKey index key value state start).map Prod.fst =
      launch.advanceKey index key value start state := by
  obtain ⟨sums, buffers⟩ := state
  unfold reportAdvanceKey advanceKey
  simp only [map_of_bind]
  refine bind_congr fun queries => bind_congr fun derivatives => bind_congr fun pairs => ?_
  split
  · rfl
  · rw [map_of_bind]
    rfl

theorem map_reportBackwardKeyValue (launch : Launch) (index : Nat) (buffers : Buffers α) :
    (launch.reportBackwardKeyValue index buffers).map Prod.fst = launch.runBackwardKeyValue index buffers := by
  unfold reportBackwardKeyValue runBackwardKeyValue
  rw [map_of_bind]
  refine bind_congr fun key => ?_
  rw [map_of_bind]
  refine bind_congr fun value => ?_
  refine map_bind_of_map (map_reportLoop (launch.map_reportAdvanceKey index key value) _ _)
    fun ⟨⟨sums, stored⟩, formed⟩ => ?_
  dsimp only
  rw [map_of_bind]
  refine bind_congr fun withValue => ?_
  split
  · cases launch.storeRow .dK index sums.key withValue <;> rfl
  · rfl

theorem map_reportRow (launch : Launch) (index : Nat) (buffers : Buffers α) :
    (launch.reportRow index buffers).map Prod.fst = launch.runRow index buffers := by
  unfold reportRow runRow
  dsimp only
  split
  · cases launch.runForward index buffers <;> rfl
  · split
    · exact launch.map_reportBackwardQuery index buffers
    · exact launch.map_reportBackwardKeyValue index buffers

/-- Without its report a run is the run of the emulation. -/
theorem map_reportRun (launch : Launch) (buffers : Buffers α) :
    (launch.reportRun buffers).map Prod.fst = launch.run buffers := by
  unfold reportRun run
  rw [map_of_bind]
  refine bind_congr fun _ => map_reportLoop (fun held group => map_reportLoop (fun middle index => ?_) _ _) _ _
  rw [← launch.map_reportRow index middle]
  cases launch.reportRow index middle <;> rfl

/-! ### What is reported -/

/-- The row of the attention matrix that a row of the pass for queries goes through, up to the end of the last step. -/
def queryLine (launch : Launch) (buffers : Buffers α) (row : Nat) : List (ScorePair α) :=
  (launch.stepStarts launch.columnCount).flatMap fun start =>
    (List.range launch.step).map fun offset => launch.queryPair buffers row (start + offset)

/-- The column that a column of the pass for keys and values goes through. -/
def keyLine (launch : Launch) (buffers : Buffers α) (column : Nat) : List (ScorePair α) :=
  (launch.stepStarts launch.rowCount).flatMap (launch.keyPairs buffers column)

omit [SoftmaxRegister α] in
/-- Steps find every place of a sequence where it belongs. -/
theorem getElem?_steps {β : Type} {launch : Launch} (positive : 0 < launch.step) (place : Nat → β) {length index : Nat}
    (below : index < length) :
    ((launch.stepStarts length).flatMap fun start =>
      (List.range launch.step).map fun offset => place (start + offset))[index]? = some (place index) := by
  have joined : ((launch.stepStarts length).flatMap fun start =>
      (List.range launch.step).map fun offset => place (start + offset)) =
      (List.range ((length + launch.step - 1) / launch.step * launch.step)).map place := by
    rw [← flatMap_stepStarts, List.map_flatMap]
    simp only [List.map_map, Function.comp_def]
  rw [joined]
  exact getElem?_map_range place (Nat.lt_of_lt_of_le below (le_ceil_mul positive))

/-- Every line of a matrix was reported once, with all its places. Behind them may be padding. -/
structure Reports (formed : List (Nat × List (ScorePair α))) (lines places : Nat)
    (matrix : Nat → Nat → ScorePair α) : Prop where
  once : (formed.map Prod.fst).Perm (List.range lines)
  found : ∀ line ∈ formed, ∀ place < places, line.2[place]? = some (matrix line.1 place)

variable {launch : Launch} {buffers held : Buffers α} (fits : launch.Fits buffers)
include fits

theorem Fits.reportQueryDerivative_eq (isQuery : launch.kernel.descriptor.type = ⟨.backwardQuery, true⟩) {index : Nat}
    (inside : index < launch.rowCount) :
    ∃ derivative, launch.reportQueryDerivative buffers index (launch.rowProduct buffers index) =
      .ok (derivative, launch.queryLine buffers index) := by
  have inputs : launch.kernel.descriptor.type.inputs = [.q, .k, .v, .o, .l, .dO] := by rw [isQuery]; rfl
  have logSum := fits.readCell_eq .l (by simp [inputs]) rfl inside
  have query := fits.loadRow_eq .q (by simp [inputs]) rfl index
  have outputDerivative := fits.loadRow_eq .dO (by simp [inputs]) rfl index
  rw [reportQueryDerivative, logSum, ok_bind, query, ok_bind, outputDerivative, ok_bind]
  let report := fun start => (List.range launch.step).map fun offset => launch.queryPair buffers index (start + offset)
  refine (reportLoop_eq (fun _ => True) report _ _ trivial fun start _ sums _ => ?_).imp fun _ looped => looped.1
  have keys := fits.loadRows_eq .k (by simp [inputs]) rfl start
  have values := fits.loadRows_eq .v (by simp [inputs]) rfl start
  rw [keys, ok_bind, values, ok_bind, queryStep, loadedRows, loadedRows, List.zipWith_map, List.zipWith_self]
  exact ⟨_, rfl, trivial⟩

variable (agrees : Agrees launch.kernel.descriptor.type.results buffers held)
include agrees

theorem Fits.runRow_agrees {index : Nat} (inside : index < launch.parallelCount) :
    ∃ next, launch.runRow index held = .ok next ∧ Agrees launch.kernel.descriptor.type.results buffers next := by
  have start : Agrees launch.kernel.descriptor.type.results buffers (Journal.mk held []).buffers := agrees
  obtain ⟨next, stepped, logged⟩ := fits.rowOn_logged start inside
  refine ⟨next.buffers, ?_, agrees.trans (logged.agrees fun cell here => (mem_rowCells.mp here).1)⟩
  rw [← launch.map_rowOn index ⟨held, []⟩, stepped]
  rfl

/-- A row of the pass for queries reports what it forms from the inputs of the run. -/
theorem Fits.reportRow_query (isQuery : launch.kernel.descriptor.type = ⟨.backwardQuery, true⟩) {index : Nat}
    (inside : index < launch.parallelCount) :
    ∃ next, launch.reportRow index held = .ok (next, launch.queryLine buffers index) ∧
      Agrees launch.kernel.descriptor.type.results buffers next := by
  have inRows : index < launch.rowCount := by
    rwa [parallelCount, isQuery] at inside
  have results : launch.kernel.descriptor.type.results = [.d, .dQ] := by rw [isQuery]; rfl
  have pass : launch.kernel.descriptor.type.pass = .backwardQuery := by rw [isQuery]
  have alike := Alike.refl launch
  -- The emulation says where the row ends, so what is left to find is the report.
  obtain ⟨next, ran, later⟩ := fits.runRow_agrees agrees inside
  obtain ⟨formed, reported⟩ := exists_report ((launch.map_reportRow index held).trans ran)
  have computed : launch.rowTerm held index = .ok (launch.rowProduct buffers index) := by
    rw [← alike.rowProduct (fits.get_input agrees) pass]
    exact (fits.agrees agrees).rowTerm_eq pass inRows
  have start : Agrees launch.kernel.descriptor.type.results buffers (Journal.mk held []).buffers := agrees
  have isTerm : round (launch.kernel.memory .d) (launch.rowProduct buffers index) = launch.entry buffers .d index 0 :=
    rfl
  obtain ⟨middle, noted, logged⟩ := fits.storeTermOn_logged start (by simp [results]) inside (by simp) isTerm
  have stored : launch.storeCell .d index (launch.rowProduct buffers index) held = .ok middle.buffers := by
    rw [← launch.map_storeCellOn .d index _ ⟨held, []⟩, noted]
    rfl
  have between := agrees.trans (logged.agrees (by simp [operandCells, results]))
  have same := fits.get_input between
  obtain ⟨derivative, derived⟩ := (fits.agrees between).reportQueryDerivative_eq isQuery inRows
  rw [alike.rowProduct same pass, queryLine, alike.queryPair same isQuery] at derived
  refine ⟨next, ?_, later⟩
  have isRow : launch.reportRow index held = launch.reportBackwardQuery index held := by
    rw [reportRow, pass]
    rfl
  rw [reported]
  rw [isRow, reportBackwardQuery, computed, ok_bind, stored, ok_bind, isQuery, if_pos rfl, derived, ok_bind] at reported
  obtain ⟨_, -, equal⟩ := bind_ok_iff.mp reported
  cases equal
  rfl

theorem Fits.advanceKey_agrees (isKey : launch.kernel.descriptor.type.pass = .backwardKeyValue) {index : Nat}
    (inside : index < launch.parallelCount) (start : Nat) (sums : KeySums α) :
    ∃ next, launch.advanceKey index (launch.loadedRow buffers .k index) (launch.loadedRow buffers .v index) start
        (sums, held) = .ok next ∧ Agrees launch.kernel.descriptor.type.results buffers next.2 := by
  have begun : Agrees launch.kernel.descriptor.type.results buffers (Journal.mk held []).buffers := agrees
  obtain ⟨next, stepped, logged⟩ := fits.advanceKeyOn_logged begun inside isKey sums start
  have plain := launch.map_advanceKeyOn index (launch.loadedRow buffers .k index) (launch.loadedRow buffers .v index)
    start (sums, ⟨held, []⟩)
  rw [stepped] at plain
  exact ⟨_, plain.symm, begun.trans (logged.agrees fun cell here => mem_results_of_stepCells isKey here)⟩

omit agrees in
/-- A step of the pass for keys and values reports what it forms from the inputs of the run, whatever was stored before
    it. -/
theorem Fits.reportAdvanceKey_eq (isKey : launch.kernel.descriptor.type.pass = .backwardKeyValue) {index : Nat}
    (inside : index < launch.parallelCount) (start : Nat) (state : KeySums α × Buffers α)
    (agrees : Agrees launch.kernel.descriptor.type.results buffers state.2) :
    ∃ next, launch.reportAdvanceKey index (launch.loadedRow buffers .k index) (launch.loadedRow buffers .v index)
        state start = .ok (next, launch.keyPairs buffers index start) ∧
      Agrees launch.kernel.descriptor.type.results buffers next.2 := by
  obtain ⟨sums, held⟩ := state
  have inputs := KernelType.inputs_keyValue isKey
  have queries := fits.loadRows_during agrees .q (by simp [inputs]) rfl start
  have derivatives := fits.loadRows_during agrees .dO (by simp [inputs]) rfl start
  have pairs := fits.keyStep_during agrees isKey index start
  obtain ⟨next, plain, later⟩ := fits.advanceKey_agrees agrees isKey inside start sums
  obtain ⟨formed, reported⟩ := exists_report ((launch.map_reportAdvanceKey ..).trans plain)
  refine ⟨next, ?_, later⟩
  rw [reported]
  rw [reportAdvanceKey, queries, ok_bind, derivatives, ok_bind, pairs, ok_bind] at reported
  split at reported
  · cases reported
    rfl
  · obtain ⟨_, -, equal⟩ := bind_ok_iff.mp reported
    cases equal
    rfl

/-- A column of the pass for keys and values reports what it forms from the inputs of the run. -/
theorem Fits.reportRow_key (isKey : launch.kernel.descriptor.type.pass = .backwardKeyValue) {index : Nat}
    (inside : index < launch.parallelCount) :
    ∃ next, launch.reportRow index held = .ok (next, launch.keyLine buffers index) ∧
      Agrees launch.kernel.descriptor.type.results buffers next := by
  have inputs := KernelType.inputs_keyValue isKey
  have key := fits.loadRow_during agrees .k (by simp [inputs]) rfl index
  have value := fits.loadRow_during agrees .v (by simp [inputs]) rfl index
  obtain ⟨next, ran, later⟩ := fits.runRow_agrees agrees inside
  obtain ⟨formed, reported⟩ := exists_report ((launch.map_reportRow index held).trans ran)
  obtain ⟨⟨sums, stored⟩, looped, -⟩ := reportLoop_eq
    (fun state : KeySums α × Buffers α => Agrees launch.kernel.descriptor.type.results buffers state.2)
    (launch.keyPairs buffers index) (launch.stepStarts launch.rowCount)
    (⟨List.replicate launch.head Scalar.zero, List.replicate launch.head Scalar.zero⟩, held) agrees
    fun start _ => fits.reportAdvanceKey_eq isKey inside start
  have isColumn : launch.reportRow index held = launch.reportBackwardKeyValue index held := by
    rw [reportRow, isKey]
    rfl
  refine ⟨next, ?_, later⟩
  rw [reported]
  rw [isColumn, reportBackwardKeyValue, key, ok_bind, value, ok_bind, looped, ok_bind] at reported
  obtain ⟨withValue, -, rest⟩ := bind_ok_iff.mp reported
  split at rest
  · obtain ⟨_, -, equal⟩ := bind_ok_iff.mp rest
    cases equal
    rfl
  · cases rest
    rfl

omit agrees

/-- A run reports each row, or column, once, as long as each can be run on buffers that agree with the first. -/
theorem Fits.reportRun_reports {after : Buffers α} (ran : launch.run buffers = .ok after) (short : launch.problem.Short)
    (checked : launch.check buffers = .ok ()) (line : Nat → List (ScorePair α)) {places : Nat}
    (matrix : Nat → Nat → ScorePair α)
    (full : ∀ index, ∀ place < places, (line index)[place]? = some (matrix index place))
    (each : ∀ index < launch.parallelCount, ∀ held, Agrees launch.kernel.descriptor.type.results buffers held →
      ∃ next, launch.reportRow index held = .ok (next, line index) ∧
        Agrees launch.kernel.descriptor.type.results buffers next) :
    ∃ formed, launch.reportRun buffers = .ok (after, formed) ∧ Reports formed launch.parallelCount places matrix := by
  let groups := List.range (launch.kernel.grid launch.problem.extents).toNat
  have group : ∀ group ∈ groups, ∀ held, Agrees launch.kernel.descriptor.type.results buffers held →
      ∃ next, launch.reportGroup held group =
          .ok (next, (launch.groupRows group).flatMap fun index => [(index, line index)]) ∧
        Agrees launch.kernel.descriptor.type.results buffers next := by
    intro group _ held agrees
    refine reportLoop_eq (Agrees launch.kernel.descriptor.type.results buffers) _ _ held agrees ?_
    intro index member middle later
    obtain ⟨next, reported, latest⟩ :=
      each index ((launch.mem_groupRows fits.group group index).mp member).1 middle later
    exact ⟨next, by rw [reported]; rfl, latest⟩
  obtain ⟨last, looped, -⟩ := reportLoop_eq (Agrees launch.kernel.descriptor.type.results buffers) _ groups buffers
    (Agrees.refl _ buffers) group
  have reported : launch.reportRun buffers =
      .ok (last, (groups.flatMap launch.groupRows).map fun index => (index, line index)) := by
    rw [reportRun, checked, ok_bind, looped, List.map_eq_flatMap, List.flatMap_assoc]
  have plain := launch.map_reportRun buffers
  rw [reported, ran] at plain
  obtain rfl : last = after := Except.ok.inj plain
  refine ⟨_, reported, ?_, ?_⟩
  · have indices : (Prod.fst ∘ fun index => (index, line index)) = id := rfl
    rw [List.map_map, indices, List.map_id]
    exact perm_groupRows short fits.group (List.Perm.refl groups)
  · intro formed member place below
    obtain ⟨index, -, rfl⟩ := List.mem_map.mp member
    exact full index place below

theorem Fits.reportRun_query (isQuery : launch.kernel.descriptor.type = ⟨.backwardQuery, true⟩) {after : Buffers α}
    (ran : launch.run buffers = .ok after) (short : launch.problem.Short) (checked : launch.check buffers = .ok ()) :
    ∃ formed, launch.reportRun buffers = .ok (after, formed) ∧
      Reports formed launch.rowCount launch.columnCount (launch.queryPair buffers) := by
  have isRows : launch.parallelCount = launch.rowCount := by
    rw [parallelCount, isQuery]
    rfl
  rw [← isRows]
  exact fits.reportRun_reports ran short checked (launch.queryLine buffers) _
    (fun index place below => getElem?_steps fits.step (launch.queryPair buffers index) below)
    fun index inside held agrees => fits.reportRow_query agrees isQuery inside

theorem Fits.reportRun_key (isKey : launch.kernel.descriptor.type.pass = .backwardKeyValue) {after : Buffers α}
    (ran : launch.run buffers = .ok after) (short : launch.problem.Short) (checked : launch.check buffers = .ok ()) :
    ∃ formed, launch.reportRun buffers = .ok (after, formed) ∧
      Reports formed launch.columnCount launch.rowCount (launch.keyPair buffers) := by
  have isColumns : launch.parallelCount = launch.columnCount := if_pos isKey
  rw [← isColumns]
  exact fits.reportRun_reports ran short checked (launch.keyLine buffers) _
    (fun index place below => getElem?_steps fits.step (launch.keyPair buffers index) below)
    fun index inside held agrees => fits.reportRow_key agrees isKey inside

end Launch

end KernelForge.Attention
