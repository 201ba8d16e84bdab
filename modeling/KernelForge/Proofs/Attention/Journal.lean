import KernelForge.Proofs.Attention.Matrices

/-!
The passes of attention on a memory that keeps a journal. The passes are written here over any memory that shows its
buffers and stores rows and cells. Over plain buffers they are the passes of the emulation, by definition; over a
journal they also note every cell they store to, as often as they do, and without the notes what they do is again what
the emulation does. `Logged` extends `Stored` by these notes: it says which cells were written, each how often, and
what may stand there now.
-/

namespace KernelForge

variable {α β γ δ σ τ ι ε : Type}

/-- A computation seen through a change of its states, before a step that can be seen through it. -/
theorem map_bind_of_map {change : α → γ} {change' : β → δ} {first : Except ε α} {first' : Except ε γ}
    {next : α → Except ε β} {next' : γ → Except ε δ} (changed : first.map change = first')
    (each : ∀ value, (next value).map change' = next' (change value)) :
    (first >>= next).map change' = first' >>= next' := by
  subst changed
  cases first with
  | error failure => rfl
  | ok value => exact each value

theorem map_foldlM_of_map (change : σ → τ) {step : σ → ι → Except ε σ} {step' : τ → ι → Except ε τ}
    (each : ∀ state item, (step state item).map change = step' (change state) item) (items : List ι) (state : σ) :
    (items.foldlM step state).map change = items.foldlM step' (change state) := by
  induction items generalizing state with
  | nil => rfl
  | cons head tail ih =>
    rw [List.foldlM_cons, List.foldlM_cons]
    exact map_bind_of_map (each state head) ih

end KernelForge

namespace KernelForge.Attention

variable {α : Type}

/-- What a pass runs on: it shows its buffers, and rows and cells can be stored. -/
class Memory (μ : Type) (α : outParam Type) where
  view : μ → Buffers α
  setRow : μ → Problem → Operand → Nat → List α → Except Failure μ
  setCell : μ → Operand → Nat → α → Except Failure μ

instance : Memory (Buffers α) α where
  view := id
  setRow := Buffers.setRow
  setCell := Buffers.setCell

/-- Buffers and the cells that were stored to, one entry for each time. -/
structure Journal (α : Type) where
  buffers : Buffers α
  written : List (Operand × Nat) := []

instance : Memory (Journal α) α where
  view := Journal.buffers
  setRow journal problem operand index values := do
    let buffers ← journal.buffers.setRow problem operand index values
    let cells := values.zipIdx.map fun (_, dimension) => (operand, (problem.layout operand).position index dimension)
    return ⟨buffers, journal.written ++ cells⟩
  setCell journal operand index value := do
    let buffers ← journal.buffers.setCell operand index value
    return ⟨buffers, journal.written ++ [(operand, index)]⟩

namespace Launch

open Memory Register SoftmaxRegister

section Passes

variable {μ : Type} [SoftmaxRegister α] [Memory μ α]

/-- Stores a row of a matrix. -/
def storeRowOn (launch : Launch) (operand : Operand) (index : Nat) (values : List α) (memory : μ) :
    Except Failure μ :=
  setRow memory launch.problem operand index (values.map (round (launch.kernel.memory operand)))

/-- Stores a number. -/
def storeCellOn (launch : Launch) (operand : Operand) (index : Nat) (value : α) (memory : μ) : Except Failure μ :=
  setCell memory operand index (round (launch.kernel.memory operand) value)

/-- One row of the forward pass. -/
def forwardOn (launch : Launch) (index : Nat) (memory : μ) : Except Failure μ := do
  let running ← launch.forwardRow (view memory) index
  let stored ← launch.storeRowOn .o index running.output memory
  if launch.kernel.descriptor.type.secondary then
    launch.storeCellOn .l index (running.greatest + log2 running.total) stored
  else return stored

/-- One row of the pass for queries. -/
def backwardQueryOn (launch : Launch) (index : Nat) (memory : μ) : Except Failure μ := do
  let term ← launch.rowTerm (view memory) index
  let stored ← launch.storeCellOn .d index term memory
  if launch.kernel.descriptor.type.secondary then
    let derivative ← launch.queryDerivative (view stored) index term
    launch.storeRowOn .dQ index derivative stored
  else return stored

/-- One step of the pass for keys and values. -/
def advanceKeyOn (launch : Launch) (index : Nat) (key value : List α) (start : Nat) (state : KeySums α × μ) :
    Except Failure (KeySums α × μ) := do
  let (sums, memory) := state
  let queries ← launch.loadRows (view memory) .q start
  let derivatives ← launch.loadRows (view memory) .dO start
  let pairs ← launch.keyStep (view memory) key value start queries derivatives
  let valueSum := launch.betweenSteps .dV
    (accumulateRows (launch.kernel.register .dV) sums.value ((pairs.map (·.probability)).zip derivatives))
  if launch.kernel.descriptor.type.secondary then
    let keySum := launch.betweenSteps .dK
      (accumulateRows (launch.kernel.register .dK) sums.key ((pairs.map (·.derivative)).zip queries))
    return (⟨valueSum, keySum⟩, memory)
  else
    let stride := launch.problem.scoreStride.toNat
    let stored ← pairs.zipIdx.foldlM (fun held (pair, offset) =>
      if start + offset < launch.rowCount then
        launch.storeCellOn .dST ((start + offset) * stride + index) pair.derivative held
      else return held) memory
    return (⟨valueSum, sums.key⟩, stored)

/-- One column of the pass for keys and values. -/
def backwardKeyValueOn (launch : Launch) (index : Nat) (memory : μ) : Except Failure μ := do
  let key ← launch.loadRow (view memory) .k index
  let value ← launch.loadRow (view memory) .v index
  let zeros : List α := List.replicate launch.head Scalar.zero
  let (sums, stored) ← (launch.stepStarts launch.rowCount).foldlM
    (fun state start => launch.advanceKeyOn index key value start state) ((⟨zeros, zeros⟩ : KeySums α), memory)
  let withValue ← launch.storeRowOn .dV index sums.value stored
  if launch.kernel.descriptor.type.secondary then launch.storeRowOn .dK index sums.key withValue
  else return withValue

/-- One row, or column, of the pass of the kernel. -/
def rowOn (launch : Launch) (index : Nat) (memory : μ) : Except Failure μ :=
  let pass := launch.kernel.descriptor.type.pass
  if pass = .forward then launch.forwardOn index memory
  else if pass = .backwardQuery then launch.backwardQueryOn index memory
  else launch.backwardKeyValueOn index memory

/-- The rows of a threadgroup. -/
def groupRows (launch : Launch) (group : Nat) : List Nat :=
  let size := launch.kernel.descriptor.block.parallelization.toNat
  let first := group * size
  List.range' first (min (first + size) launch.parallelCount - first)

/-- One threadgroup. -/
def groupOn (launch : Launch) (memory : μ) (group : Nat) : Except Failure μ :=
  (launch.groupRows group).foldlM (fun held index => launch.rowOn index held) memory

/-- Threadgroups, one after the other. -/
def groupsOn (launch : Launch) (groups : List Nat) (memory : μ) : Except Failure μ :=
  groups.foldlM launch.groupOn memory

end Passes

variable [SoftmaxRegister α]

/-! ### Without the notes -/

theorem map_storeRowOn (launch : Launch) (operand : Operand) (index : Nat) (values : List α) (journal : Journal α) :
    (launch.storeRowOn operand index values journal).map Journal.buffers =
      launch.storeRow operand index values journal.buffers := by
  unfold storeRow
  cases stored : journal.buffers.setRow launch.problem operand index
      (values.map (round (launch.kernel.memory operand))) <;>
    simp [storeRowOn, setRow, stored, Except.map, bind, Except.bind, pure, Except.pure]

theorem map_storeCellOn (launch : Launch) (operand : Operand) (index : Nat) (value : α) (journal : Journal α) :
    (launch.storeCellOn operand index value journal).map Journal.buffers =
      launch.storeCell operand index value journal.buffers := by
  unfold storeCell
  cases stored : journal.buffers.setCell operand index (round (launch.kernel.memory operand) value) <;>
    simp [storeCellOn, setCell, stored, Except.map, bind, Except.bind, pure, Except.pure]

theorem map_forwardOn (launch : Launch) (index : Nat) (journal : Journal α) :
    (launch.forwardOn index journal).map Journal.buffers = launch.runForward index journal.buffers := by
  unfold forwardOn runForward
  rw [map_of_bind]
  refine bind_congr fun running => map_bind_of_map (launch.map_storeRowOn ..) fun stored => ?_
  split
  · exact launch.map_storeCellOn ..
  · rfl

theorem map_backwardQueryOn (launch : Launch) (index : Nat) (journal : Journal α) :
    (launch.backwardQueryOn index journal).map Journal.buffers = launch.runBackwardQuery index journal.buffers := by
  unfold backwardQueryOn runBackwardQuery
  rw [map_of_bind]
  refine bind_congr fun term => map_bind_of_map (launch.map_storeCellOn ..) fun stored => ?_
  split
  · rw [map_of_bind]
    exact bind_congr fun derivative => launch.map_storeRowOn ..
  · rfl

theorem map_advanceKeyOn (launch : Launch) (index : Nat) (key value : List α) (start : Nat)
    (state : KeySums α × Journal α) :
    (launch.advanceKeyOn index key value start state).map (Prod.map id Journal.buffers) =
      launch.advanceKey index key value start (Prod.map id Journal.buffers state) := by
  obtain ⟨sums, journal⟩ := state
  unfold advanceKeyOn advanceKey
  simp only [map_of_bind]
  refine bind_congr fun queries => bind_congr fun derivatives => bind_congr fun pairs => ?_
  split
  · rfl
  · refine map_bind_of_map (map_foldlM_of_map Journal.buffers (fun held item => ?_) pairs.zipIdx journal) fun _ => rfl
    split
    · exact launch.map_storeCellOn ..
    · rfl

theorem map_backwardKeyValueOn (launch : Launch) (index : Nat) (journal : Journal α) :
    (launch.backwardKeyValueOn index journal).map Journal.buffers =
      launch.runBackwardKeyValue index journal.buffers := by
  unfold backwardKeyValueOn runBackwardKeyValue
  rw [map_of_bind]
  refine bind_congr fun key => ?_
  rw [map_of_bind]
  refine bind_congr fun value => ?_
  refine map_bind_of_map (map_foldlM_of_map (Prod.map id Journal.buffers)
    (fun state start => launch.map_advanceKeyOn index key value start state) _ _) fun ⟨sums, stored⟩ => ?_
  refine map_bind_of_map (launch.map_storeRowOn ..) fun withValue => ?_
  split
  · exact launch.map_storeRowOn ..
  · rfl

theorem map_rowOn (launch : Launch) (index : Nat) (journal : Journal α) :
    (launch.rowOn index journal).map Journal.buffers = launch.runRow index journal.buffers := by
  unfold rowOn runRow
  dsimp only
  split
  · exact launch.map_forwardOn index journal
  · split
    · exact launch.map_backwardQueryOn index journal
    · exact launch.map_backwardKeyValueOn index journal

/-- Without its notes a run is what the emulation does. -/
theorem map_groupsOn (launch : Launch) (groups : List Nat) (journal : Journal α) :
    (launch.groupsOn groups journal).map Journal.buffers = launch.runGroups groups journal.buffers :=
  map_foldlM_of_map Journal.buffers (fun held group =>
    map_foldlM_of_map Journal.buffers (fun held index => launch.map_rowOn index held) (launch.groupRows group) held)
    groups journal

end Launch

/-! ### What the notes say -/

namespace Journal

open Buffers

/-- From one journal to the next the cells of a list were written, as often as they stand in it, each with a value that
    is allowed there, and no other cell changed. -/
structure Logged (allowed : Operand → Nat → α → Prop) (cells : List (Operand × Nat)) (before after : Journal α) :
    Prop where
  stored : Stored allowed (fun operand cell => (operand, cell) ∈ cells) before.buffers after.buffers
  written : after.written.Perm (before.written ++ cells)

namespace Logged

variable {allowed : Operand → Nat → α → Prop} {cells later : List (Operand × Nat)} {before middle after : Journal α}

theorem refl (journal : Journal α) : Logged allowed [] journal journal :=
  ⟨(Stored.refl journal.buffers).congr (by simp), by simp⟩

theorem trans (first : Logged allowed cells before middle) (second : Logged allowed later middle after) :
    Logged allowed (cells ++ later) before after := by
  refine ⟨(first.stored.trans second.stored).congr (by simp), ?_⟩
  rw [← List.append_assoc]
  exact second.written.trans (first.written.append_right later)

theorem perm (logged : Logged allowed cells before after) (same : cells.Perm later) :
    Logged allowed later before after :=
  ⟨logged.stored.congr fun _ _ => same.mem_iff, logged.written.trans (same.append_left before.written)⟩

theorem agrees {changed : List Operand} (logged : Logged allowed cells before after)
    (within : ∀ place ∈ cells, place.1 ∈ changed) : Agrees changed before.buffers after.buffers :=
  logged.stored.agrees fun operand cell here => within (operand, cell) here

end Logged

/-- A loop that carries sums beside its journal: it notes the cells of all its steps, as long as each can be run on
    buffers that agree with the first. -/
theorem foldlM_sums_logged {ι σ ε : Type} (allowed : Operand → Nat → α → Prop) (changed : List Operand)
    (step : σ × Journal α → ι → Except ε (σ × Journal α)) (advance : σ → ι → σ) (cells : ι → List (Operand × Nat))
    (items : List ι) (sums : σ) (journal : Journal α) (within : ∀ item, ∀ place ∈ cells item, place.1 ∈ changed)
    (each : ∀ item ∈ items, ∀ sums held, Agrees changed journal.buffers held.buffers →
      ∃ next, step (sums, held) item = .ok (advance sums item, next) ∧ Logged allowed (cells item) held next) :
    ∃ last, items.foldlM step (sums, journal) = .ok (items.foldl advance sums, last) ∧
      Logged allowed (items.flatMap cells) journal last := by
  induction items generalizing sums journal with
  | nil => exact ⟨journal, rfl, .refl journal⟩
  | cons head tail ih =>
    obtain ⟨middle, stepped, first⟩ := each head (by simp) sums journal (Agrees.refl changed _)
    obtain ⟨last, folded, rest⟩ := ih (advance sums head) middle fun item member sums held later =>
      each item (by simp [member]) sums held ((first.agrees (within head)).trans later)
    refine ⟨last, ?_, List.flatMap_cons ▸ first.trans rest⟩
    rw [List.foldlM_cons, stepped, ok_bind, folded]
    rfl

/-- As `foldlM_sums_logged`, without sums. -/
theorem foldlM_logged {ι ε : Type} (allowed : Operand → Nat → α → Prop) (changed : List Operand)
    (step : Journal α → ι → Except ε (Journal α)) (cells : ι → List (Operand × Nat)) (items : List ι)
    (journal : Journal α) (within : ∀ item, ∀ place ∈ cells item, place.1 ∈ changed)
    (each : ∀ item ∈ items, ∀ held, Agrees changed journal.buffers held.buffers →
      ∃ next, step held item = .ok next ∧ Logged allowed (cells item) held next) :
    ∃ last, items.foldlM step journal = .ok last ∧ Logged allowed (items.flatMap cells) journal last := by
  obtain ⟨last, folded, logged⟩ := foldlM_sums_logged allowed changed
    (fun (state : Unit × Journal α) item => (step state.2 item).map (Prod.mk ())) (fun _ _ => ()) cells items ()
    journal within
    (by
      intro item member _ held agrees
      obtain ⟨next, stepped, noted⟩ := each item member held agrees
      exact ⟨next, congrArg (Except.map (Prod.mk ())) stepped, noted⟩)
  rw [← map_foldlM_of_map (Prod.mk ()) fun _ _ => rfl] at folded
  cases run : items.foldlM step journal with
  | error failure =>
    rw [run] at folded
    cases folded
  | ok reached =>
    rw [run] at folded
    obtain ⟨-, rfl⟩ := Prod.mk.inj (Except.ok.inj folded)
    exact ⟨reached, rfl, logged⟩

variable {allowed : Operand → Nat → α → Prop} {journal : Journal α} {operand : Operand} {index : Nat}

theorem setCell_logged {value : α} (inside : index < (journal.buffers.get operand).size)
    (fine : allowed operand index value) :
    ∃ next, Memory.setCell journal operand index value = .ok next ∧
      Logged allowed [(operand, index)] journal next := by
  obtain ⟨buffers, done, stored⟩ := setCell_stored inside fine
  refine ⟨⟨buffers, journal.written ++ [(operand, index)]⟩, ?_, stored.congr (by simp), .refl _⟩
  simp only [Memory.setCell, done, ok_bind]
  rfl

theorem setRow_logged {problem : Problem} (value : Nat → α) (inLength : index < (problem.layout operand).length)
    (long : (problem.layout operand).size ≤ (journal.buffers.get operand).size)
    (fine : ∀ dimension < (problem.layout operand).head,
      allowed operand ((problem.layout operand).position index dimension) (value dimension)) :
    ∃ next, Memory.setRow journal problem operand index ((List.range (problem.layout operand).head).map value) =
        .ok next ∧
      Logged allowed ((List.range (problem.layout operand).head).map fun dimension =>
        (operand, (problem.layout operand).position index dimension)) journal next := by
  obtain ⟨buffers, done, stored⟩ := setRow_stored value inLength long fine
  refine ⟨⟨buffers, _⟩, ?_, stored.congr ?_, .refl _⟩
  · simp only [Memory.setRow, done, ok_bind, zipIdx_map_range, List.map_map]
    rfl
  · intro other cell
    simp only [List.mem_map, List.mem_range, Prod.mk.injEq]
    constructor
    · rintro ⟨rfl, dimension, below, rfl⟩
      exact ⟨dimension, below, rfl, rfl⟩
    · rintro ⟨dimension, below, rfl, rfl⟩
      exact ⟨rfl, dimension, below, rfl⟩

end Journal

namespace Launch

open Buffers Journal

variable [SoftmaxRegister α]

theorem mem_groupRows (launch : Launch) (positive : 0 < launch.groupSize) (group index : Nat) :
    index ∈ launch.groupRows group ↔ index < launch.parallelCount ∧ index / launch.groupSize = group :=
  launch.mem_group_iff positive group index

/-- Threadgroups note the cells of the rows they own, in whichever order they run. -/
theorem groupsOn_logged (launch : Launch) (allowed : Operand → Nat → α → Prop) (changed : List Operand)
    (cells : Nat → List (Operand × Nat)) (groups : List Nat) (journal : Journal α) (positive : 0 < launch.groupSize)
    (within : ∀ index, ∀ place ∈ cells index, place.1 ∈ changed)
    (each : ∀ index < launch.parallelCount, ∀ held, Agrees changed journal.buffers held.buffers →
      ∃ next, launch.rowOn index held = .ok next ∧ Logged allowed (cells index) held next) :
    ∃ last, launch.groupsOn groups journal = .ok last ∧
      Logged allowed ((groups.flatMap launch.groupRows).flatMap cells) journal last := by
  rw [List.flatMap_assoc]
  refine foldlM_logged allowed changed launch.groupOn (fun group => (launch.groupRows group).flatMap cells) groups
    journal ?_ ?_
  · intro group place member
    obtain ⟨index, -, here⟩ := List.mem_flatMap.mp member
    exact within index place here
  · intro group _ held agrees
    refine foldlM_logged allowed changed _ cells (launch.groupRows group) held within ?_
    intro index member middle later
    exact each index ((launch.mem_groupRows positive group index).mp member).1 middle (agrees.trans later)

end Launch

end KernelForge.Attention
