import KernelForge.Proofs.Gemm.Exact
import KernelForge.Proofs.Gemm.Order

/-!
What a run leaves alone. A run that succeeds gives the product, but one that fails has stores behind it too, so the
buffers are followed here through runs of both kinds: a threadgroup attempts its stores one by one, and the first
attempt that fails ends the run with the buffers as they are then. Every store goes to an element of the product, for
all kernels, strides, orders of the threadgroups and ways to interleave them. The errors that a caller gets back are
from before the first store.
-/

namespace KernelForge

variable {α β ι : Type}

/-- A buffer after attempts to store, each with the cell and the value or a failure, and how they ended. The first that
    fails is the last. -/
def perform : List (Except Failure (Nat × α)) → Array α → Array α × Except Failure Unit
  | [], buffer => (buffer, .ok ())
  | attempt :: rest, buffer =>
    match attempt >>= fun place => writeCell buffer place.1 place.2 with
    | .ok next => perform rest next
    | .error failure => (buffer, .error failure)

theorem perform_cons (attempt : Except Failure (Nat × α)) (rest : List (Except Failure (Nat × α))) (buffer : Array α) :
    perform (attempt :: rest) buffer =
      match attempt >>= fun place => writeCell buffer place.1 place.2 with
      | .ok next => perform rest next
      | .error failure => (buffer, .error failure) :=
  rfl

/-- The buffer of attempts that all succeed. -/
def produced (outcome : Array α × Except Failure Unit) : Except Failure (Array α) :=
  outcome.2.map fun _ => outcome.1

theorem produced_perform_append (first second : List (Except Failure (Nat × α))) (buffer : Array α) :
    produced (perform (first ++ second) buffer) =
      produced (perform first buffer) >>= fun middle => produced (perform second middle) := by
  induction first generalizing buffer with
  | nil => rfl
  | cons attempt rest ih =>
    rw [List.cons_append, perform_cons, perform_cons]
    cases attempt >>= fun place => writeCell buffer place.1 place.2 with
    | ok next => exact ih next
    | error failure => rfl

/-- A loop that computes one store after the other and makes it. -/
theorem foldlM_eq_perform (store : ι → Except Failure (Nat × α)) (items : List ι) (buffer : Array α) :
    items.foldlM (fun held item => store item >>= fun place => writeCell held place.1 place.2) buffer =
      produced (perform (items.map store) buffer) := by
  induction items generalizing buffer with
  | nil => rfl
  | cons item rest ih =>
    rw [List.foldlM_cons, List.map_cons, perform_cons]
    cases store item >>= fun place => writeCell buffer place.1 place.2 with
    | ok next => exact ih next
    | error failure => rfl

/-- The attempts of a computation that may fail before it comes to them. -/
def attemptsOf : Except Failure (List (Except Failure (Nat × α))) → List (Except Failure (Nat × α))
  | .ok attempts => attempts
  | .error failure => [.error failure]

theorem produced_perform_attemptsOf (attempts : Except Failure (List (Except Failure (Nat × α)))) (buffer : Array α) :
    produced (perform (attemptsOf attempts) buffer) =
      attempts >>= fun attempts => produced (perform attempts buffer) := by
  cases attempts <;> rfl

theorem mem_attemptsOf {result : Except Failure (List (Except Failure (Nat × α)))} {attempt : Except Failure (Nat × α)}
    (member : attempt ∈ attemptsOf result) :
    (∃ attempts, result = .ok attempts ∧ attempt ∈ attempts) ∨
      ∃ failure, result = .error failure ∧ attempt = .error failure := by
  cases result with
  | ok attempts => exact .inl ⟨attempts, rfl, member⟩
  | error failure => exact .inr ⟨failure, rfl, List.mem_singleton.mp member⟩

/-- What a step of a run changes is the cell that it names. -/
theorem frame_of_attempt {attempt : Except Failure (Nat × α)} {buffer next : Array α}
    (made : (attempt >>= fun place => writeCell buffer place.1 place.2) = .ok next) :
    next.size = buffer.size ∧
      ∀ cell, (∀ store, .ok store = attempt → store.1 ≠ cell) → next[cell]? = buffer[cell]? := by
  obtain ⟨store, rfl, written⟩ := bind_ok_iff.mp made
  unfold writeCell at written
  split at written
  · cases written
    exact ⟨Array.size_setIfInBounds, fun cell apart => Array.getElem?_setIfInBounds_ne (apart store rfl)⟩
  · cases written

theorem size_perform (attempts : List (Except Failure (Nat × α))) (buffer : Array α) :
    (perform attempts buffer).1.size = buffer.size := by
  induction attempts generalizing buffer with
  | nil => rfl
  | cons attempt rest ih =>
    rw [perform_cons]
    cases made : attempt >>= fun place => writeCell buffer place.1 place.2 with
    | error failure => rfl
    | ok next => exact (ih next).trans (frame_of_attempt made).1

/-- Attempts change no more than the cells that they name. -/
theorem perform_frame {attempts : List (Except Failure (Nat × α))} {cell : Nat}
    (apart : ∀ store, .ok store ∈ attempts → store.1 ≠ cell) (buffer : Array α) :
    (perform attempts buffer).1[cell]? = buffer[cell]? := by
  induction attempts generalizing buffer with
  | nil => rfl
  | cons attempt rest ih =>
    rw [perform_cons]
    cases made : attempt >>= fun place => writeCell buffer place.1 place.2 with
    | error failure => rfl
    | ok next =>
      have before := (frame_of_attempt made).2 cell fun store equal => apart store (by simp [equal])
      exact (ih (fun other member => apart other (by simp [member])) next).trans before

/-! ### Sorts of failures -/

/-- A computation fails, if at all, with a failure of a sort. -/
def FailsAs (sort : Failure → Prop) (result : Except Failure β) : Prop :=
  ∀ failure, result = .error failure → sort failure

namespace FailsAs

variable {sort : Failure → Prop}

theorem ok (value : β) : FailsAs sort (.ok value) := nofun

theorem error {failure : Failure} (holds : sort failure) : FailsAs sort (.error failure : Except Failure β) := by
  rintro _ ⟨⟩
  exact holds

theorem bind {γ : Type} {first : Except Failure β} {next : β → Except Failure γ} (before : FailsAs sort first)
    (after : ∀ value, FailsAs sort (next value)) : FailsAs sort (first >>= next) := by
  cases first with
  | ok value => exact after value
  | error failure => exact .error (before failure rfl)

theorem foldlM {σ : Type} {step : σ → ι → Except Failure σ} (each : ∀ state item, FailsAs sort (step state item))
    (items : List ι) (state : σ) : FailsAs sort (items.foldlM step state) := by
  induction items generalizing state with
  | nil => exact .ok state
  | cons item rest ih =>
    rw [List.foldlM_cons]
    exact (each state item).bind ih

theorem mapM {f : ι → Except Failure β} (each : ∀ item, FailsAs sort (f item)) (items : List ι) :
    FailsAs sort (items.mapM f) := by
  induction items with
  | nil => exact .ok []
  | cons item rest ih =>
    rw [List.mapM_cons]
    exact (each item).bind fun _ => ih.bind fun _ => .ok _

/-! A buffer is left only by an index outside it. -/

variable (indices : ∀ index length, sort (.indexOutOfRange index length))

include indices

theorem readCell (buffer : Array α) (index : Nat) : FailsAs sort (KernelForge.readCell buffer index) := by
  unfold KernelForge.readCell
  split
  · exact .ok _
  · exact .error (indices _ _)

theorem writeCell (buffer : Array α) (index : Nat) (value : α) :
    FailsAs sort (KernelForge.writeCell buffer index value) := by
  unfold KernelForge.writeCell
  split
  · exact .ok _
  · exact .error (indices _ _)

theorem writeRectangle {rows columns : Nat} {position : Nat → Nat → Nat} {entry : Nat → Nat → Except Failure α}
    (each : ∀ row column, FailsAs sort (entry row column)) (buffer : Array α) :
    FailsAs sort (KernelForge.writeRectangle rows columns position entry buffer) :=
  .foldlM (fun _ _ => (each _ _).bind fun _ => .writeCell indices _ _ _) _ _

theorem perform {attempts : List (Except Failure (Nat × α))} (each : ∀ attempt ∈ attempts, FailsAs sort attempt)
    (buffer : Array α) : FailsAs sort (KernelForge.perform attempts buffer).2 := by
  induction attempts generalizing buffer with
  | nil => exact .ok ()
  | cons attempt rest ih =>
    rw [perform_cons]
    have stored := (each attempt (by simp)).bind fun place => .writeCell indices buffer place.1 place.2
    split
    · exact ih (fun other member => each other (by simp [member])) _
    · rename_i failure failed
      exact .error (stored failure failed)

end FailsAs

end KernelForge

namespace KernelForge.Gemm

/-- The buffers as a run leaves them, and how it ended. -/
structure Ending (α : Type) where
  buffers : Buffers α
  result : Except Failure Unit

namespace Launch

variable {α : Type} {launch : Launch α} {place : Place}

/-- What is checked before a threadgroup runs. -/
def checks (launch : Launch α) : Except Failure Unit := do
  launch.checkMatch
  launch.problem.checkBuffers launch.buffers true
  launch.checkTiles
  launch.checkStaging

/-- An access that failed: outside a matrix, or outside its buffer. -/
def IsAccess (launch : Launch α) (failure : Failure) : Prop :=
  failure = launch.outside ∨ failure.kind = .abort

theorem isAccess_indexOutOfRange (launch : Launch α) (index length : Nat) :
    launch.IsAccess (.indexOutOfRange index length) :=
  .inr rfl

variable [Register α]

/-- The attempts of a block from its tiles. -/
def placeAttempts (launch : Launch α) (place : Place) (tiles : List (Tile α)) : List (Except Failure (Nat × α)) :=
  if place.direct then
    (launch.entries tiles).map fun entry =>
      launch.cellStore (place.shiftedRow + entry.1) (place.shiftedColumn + entry.2.1) entry.2.2
  else
    let rows := min launch.groupM (launch.m - place.row)
    let columns := min launch.groupN (launch.n - place.column)
    attemptsOf do
      let block ← (launch.entries tiles).foldlM (fun held entry =>
        writeCell held (launch.staged .c entry.1 entry.2.1) (Register.round (launch.kernel.memory .c) entry.2.2))
        (launch.poisoned .c)
      return (List.range (rows * columns)).map fun index => do
        let value ← readCell block (launch.staged .c (place.row - place.shiftedRow + index / columns)
          (place.column - place.shiftedColumn + index % columns))
        launch.cellStore (place.row + index / columns) (place.column + index % columns) value

/-- The attempts of a threadgroup, in their order. -/
def attempts (launch : Launch α) (group : Nat × Nat) : List (Except Failure (Nat × α)) :=
  attemptsOf do
    let tiles ← launch.summedTiles (launch.place group.1 group.2)
    return launch.placeAttempts (launch.place group.1 group.2) tiles

/-- A run whose threadgroups come to their attempts in this order. -/
def execute (launch : Launch α) (attempts : List (Except Failure (Nat × α))) : Ending α :=
  match launch.checks with
  | .error failure => ⟨launch.buffers, .error failure⟩
  | .ok () =>
    let (c, result) := perform attempts launch.buffers.c
    ⟨{ launch.buffers with c }, result⟩

/-- Nothing but threadgroups attempts to store, in any order. -/
def Scheduled (launch : Launch α) (attempts : List (Except Failure (Nat × α))) : Prop :=
  ∀ attempt ∈ attempts, ∃ group, attempt ∈ launch.attempts group

theorem scheduled_of_order (launch : Launch α) (order : List (Nat × Nat)) :
    launch.Scheduled (order.flatMap launch.attempts) := by
  intro attempt member
  obtain ⟨group, -, attempted⟩ := List.mem_flatMap.mp member
  exact ⟨group, attempted⟩

/-! ### The same runs -/

theorem storeProduct_eq_perform (launch : Launch α) (place : Place) (tiles : List (Tile α)) (product : Array α) :
    launch.storeProduct place tiles product = produced (perform (launch.placeAttempts place tiles) product) := by
  dsimp only [storeProduct, placeAttempts]
  by_cases direct : place.direct = true
  · rw [if_pos direct, if_pos direct, launch.foldlM_entries (fun held row column value =>
      launch.store held (place.shiftedRow + row) (place.shiftedColumn + column) value)]
    simp only [store_eq]
    exact foldlM_eq_perform _ _ _
  · rw [if_neg direct, if_neg direct, launch.foldlM_entries (fun held row column value =>
      writeCell held (launch.staged .c row column) (Register.round (launch.kernel.memory .c) value)),
      produced_perform_attemptsOf]
    simp only [store_eq, ← bind_assoc, foldlM_eq_perform]
    simp only [bind_assoc]
    rfl

theorem runGroup_eq_perform (launch : Launch α) (product : Array α) (group : Nat × Nat) :
    launch.runGroup product group.1 group.2 = produced (perform (launch.attempts group) product) := by
  rw [runGroup_eq, attempts, produced_perform_attemptsOf]
  simp only [storeProduct_eq_perform, bind_assoc]
  rfl

theorem runGroups_eq_perform (launch : Launch α) (order : List (Nat × Nat)) (product : Array α) :
    launch.runGroups order product = produced (perform (order.flatMap launch.attempts) product) := by
  unfold runGroups
  induction order generalizing product with
  | nil => rfl
  | cons group rest ih =>
    rw [List.foldlM_cons, List.flatMap_cons, produced_perform_append, runGroup_eq_perform]
    exact bind_congr ih

/-- The run of a launch is the one that takes the threadgroups of the grid one after the other. -/
theorem run_eq_execute (launch : Launch α) :
    launch.run = (launch.execute (launch.groups.flatMap launch.attempts)).result.map fun _ =>
      (launch.execute (launch.groups.flatMap launch.attempts)).buffers.c := by
  have checked : launch.run = launch.checks >>= fun _ => launch.runGroups launch.groups launch.buffers.c := by
    simp only [run, checks, bind_assoc]
  rw [checked, execute]
  cases launch.checks with
  | error failure => rfl
  | ok _ => exact launch.runGroups_eq_perform _ _

/-! ### How threadgroups fail -/

theorem load_failsAs (launch : Launch α) (operand : Operand) (row column : Nat) :
    FailsAs launch.IsAccess (launch.load operand row column) := by
  unfold load
  dsimp only
  split
  · exact (FailsAs.readCell launch.isAccess_indexOutOfRange _ _).bind fun _ => .ok _
  · exact .error (.inl rfl)

theorem cellStore_failsAs (launch : Launch α) (row column : Nat) (value : α) :
    FailsAs launch.IsAccess (launch.cellStore row column value) := by
  unfold cellStore
  split
  · exact .ok _
  · exact .error (.inl rfl)

omit [Register α] in
theorem updateTile_failsAs {rule : Nat → Nat → α → Except Failure α}
    (each : ∀ row column value, FailsAs launch.IsAccess (rule row column value)) (tile : Tile α) :
    FailsAs launch.IsAccess (launch.updateTile rule tile) :=
  (FailsAs.mapM (fun _ => each _ _ _) _).bind fun _ => .ok _

theorem loadProduct_failsAs (launch : Launch α) (place : Place) (tiles : List (Tile α)) :
    FailsAs launch.IsAccess (launch.loadProduct place tiles) := by
  dsimp only [loadProduct]
  split
  · exact .mapM (updateTile_failsAs fun _ _ _ => (launch.load_failsAs _ _ _).bind fun _ => .ok _) _
  · refine (FailsAs.writeRectangle launch.isAccess_indexOutOfRange (fun _ _ => launch.load_failsAs _ _ _) _).bind ?_
    intro block
    refine .mapM (updateTile_failsAs fun _ _ _ => ?_) _
    exact (FailsAs.readCell launch.isAccess_indexOutOfRange _ _).bind fun _ => .ok _

theorem loadBias_failsAs (launch : Launch α) (place : Place) (tiles : List (Tile α)) :
    FailsAs launch.IsAccess (launch.loadBias place tiles) := by
  have value : ∀ index extent, FailsAs launch.IsAccess (launch.biasValue index extent) := fun index extent =>
    (FailsAs.readCell launch.isAccess_indexOutOfRange _ _).bind fun _ => .ok _
  dsimp only [loadBias]
  split
  · exact .ok _
  · refine .mapM (updateTile_failsAs fun row column held => ?_) _
    split
    · exact (value _ _).bind fun _ => .ok _
    · exact (value _ _).bind fun _ => .ok _

theorem multiplyStep_failsAs {left right : Nat → Nat → Except Failure α}
    (first : ∀ row depth, FailsAs launch.IsAccess (left row depth))
    (second : ∀ depth column, FailsAs launch.IsAccess (right depth column)) (depth : Nat) (tile : Tile α) :
    FailsAs launch.IsAccess (launch.multiplyStep left right depth tile) := by
  refine updateTile_failsAs (fun row column held => .bind (.foldlM (fun sum step => ?_) _ _) fun _ => .ok _) tile
  exact (first _ _).bind fun _ => (second _ _).bind fun _ => .ok _

theorem multiplyDirect_failsAs (launch : Launch α) (place : Place) (tiles : List (Tile α)) :
    FailsAs launch.IsAccess (launch.multiplyDirect place tiles) :=
  .foldlM (fun _ _ => .mapM (multiplyStep_failsAs (fun _ _ => launch.load_failsAs _ _ _)
    (fun _ _ => launch.load_failsAs _ _ _) _) _) _ _

theorem copyFactors_failsAs (launch : Launch α) (place : Place) (depth : Nat) (stage : Stage α) :
    FailsAs launch.IsAccess (launch.copyFactors place depth stage) := by
  have indices := launch.isAccess_indexOutOfRange
  dsimp only [copyFactors]
  refine (FailsAs.writeRectangle indices (fun row step => ?_) _).bind fun a =>
    (FailsAs.writeRectangle indices (fun step column => ?_) _).bind fun b => .ok _
  · split
    · exact launch.load_failsAs _ _ _
    · exact .ok _
  · split
    · exact launch.load_failsAs _ _ _
    · exact .ok _

theorem multiplyStaged_failsAs (launch : Launch α) (place : Place) (tiles : List (Tile α)) :
    FailsAs launch.IsAccess (launch.multiplyStaged place tiles) := by
  dsimp only [multiplyStaged]
  refine .bind (.foldlM (fun held index => ?_) _ _) fun _ => .ok _
  refine (launch.copyFactors_failsAs _ _ _).bind fun stage => .bind (.foldlM (fun _ _ => ?_) _ _) fun _ => .ok _
  exact .mapM (multiplyStep_failsAs (fun _ _ => .readCell launch.isAccess_indexOutOfRange _ _)
    (fun _ _ => .readCell launch.isAccess_indexOutOfRange _ _) _) _

theorem summedTiles_failsAs (launch : Launch α) (place : Place) :
    FailsAs launch.IsAccess (launch.summedTiles place) := by
  have rest : ∀ loaded, FailsAs launch.IsAccess (launch.loadBias place loaded >>= fun biased =>
      launch.multiplyDirect place biased >>= fun direct => launch.multiplyStaged place direct) := fun loaded =>
    (launch.loadBias_failsAs _ _).bind fun _ =>
      (launch.multiplyDirect_failsAs _ _).bind fun _ => launch.multiplyStaged_failsAs _ _
  dsimp only [summedTiles]
  split
  · exact (launch.loadProduct_failsAs _ _).bind rest
  · exact rest _

/-! ### What threadgroups attempt -/

/-- An attempt is for one element, with a value that may have to be read, or it stands for an access that failed. -/
theorem placeAttempts_cases {tiles : List (Tile α)} {attempt : Except Failure (Nat × α)}
    (attempted : attempt ∈ launch.placeAttempts place tiles) :
    (∃ row column value, attempt = value >>= launch.cellStore row column ∧ FailsAs launch.IsAccess value) ∨
      ∃ failure, attempt = .error failure ∧ launch.IsAccess failure := by
  have indices := launch.isAccess_indexOutOfRange
  dsimp only [placeAttempts] at attempted
  split at attempted
  · obtain ⟨entry, -, rfl⟩ := List.mem_map.mp attempted
    exact .inl ⟨_, _, .ok entry.2.2, rfl, .ok _⟩
  · rcases mem_attemptsOf attempted with ⟨copies, copied, member⟩ | ⟨failure, failed, rfl⟩
    · obtain ⟨block, -, equal⟩ := bind_ok_iff.mp copied
      cases equal
      obtain ⟨index, -, rfl⟩ := List.mem_map.mp member
      exact .inl ⟨_, _, _, rfl, .readCell indices _ _⟩
    · refine .inr ⟨failure, rfl, FailsAs.bind ?_ (fun _ => .ok _) failure failed⟩
      exact .foldlM (fun _ _ => .writeCell indices _ _ _) _ _

theorem attempts_cases {group : Nat × Nat} {attempt : Except Failure (Nat × α)}
    (attempted : attempt ∈ launch.attempts group) :
    (∃ row column value, attempt = value >>= launch.cellStore row column ∧ FailsAs launch.IsAccess value) ∨
      ∃ failure, attempt = .error failure ∧ launch.IsAccess failure := by
  rcases mem_attemptsOf attempted with ⟨listed, summed, member⟩ | ⟨failure, failed, rfl⟩
  · obtain ⟨tiles, -, equal⟩ := bind_ok_iff.mp summed
    cases equal
    exact placeAttempts_cases member
  · exact .inr ⟨failure, rfl, (launch.summedTiles_failsAs _).bind (fun _ => .ok _) failure failed⟩

/-- A threadgroup stores to elements of the product only. -/
theorem element_of_attempts {group : Nat × Nat} {store : Nat × α} (attempted : .ok store ∈ launch.attempts group) :
    ∃ row < launch.m, ∃ column < launch.n, store.1 = row * launch.problem.strides.c.toNat + column := by
  rcases attempts_cases attempted with ⟨row, column, value, equal, -⟩ | ⟨failure, equal, -⟩
  · obtain ⟨_, -, stored⟩ := bind_ok_iff.mp equal.symm
    obtain ⟨⟨inRows, inColumns⟩, rfl⟩ := cellStore_ok_iff.mp stored
    exact ⟨row, inRows, column, inColumns, rfl⟩
  · cases equal

/-- A threadgroup that fails has left a matrix or a buffer. -/
theorem attempts_failsAs {group : Nat × Nat} {attempt : Except Failure (Nat × α)}
    (attempted : attempt ∈ launch.attempts group) : FailsAs launch.IsAccess attempt := by
  rcases attempts_cases attempted with ⟨row, column, value, rfl, reads⟩ | ⟨failure, rfl, access⟩
  · exact reads.bind fun _ => launch.cellStore_failsAs _ _ _
  · exact .error access

/-! ### The frame -/

/-- The errors by which a launch is refused: a problem of another kind, an extent that is missing, a buffer that is too
    short, or staging blocks that do not fit. -/
def Refusal (launch : Launch α) (failure : Failure) : Prop :=
  failure.kind ∈ [FailureKind.invalidDescriptor, .descriptorIncomplete, .bufferSize] ∨
    launch.checkStaging = .error failure

omit [Register α] in
/-- A launch that passed its checks is not refused any more. -/
theorem not_refusal_of_isAccess (passed : launch.checks = .ok ()) {failure : Failure}
    (access : launch.IsAccess failure) : ¬ launch.Refusal failure := by
  rintro (kind | staging)
  · rcases access with rfl | abort
    · simp [outside, Failure.of] at kind
    · simp [abort] at kind
  · obtain ⟨_, -, passed⟩ := bind_ok_iff.mp passed
    obtain ⟨_, -, passed⟩ := bind_ok_iff.mp passed
    obtain ⟨_, -, fits⟩ := bind_ok_iff.mp passed
    rw [staging] at fits
    cases fits

/-- A run touches only the matrix that it computes. The run of a launch is one of those in which the threadgroups store
    in some order; every one of them, whether it succeeds or not, leaves the factors and the bias as they are and
    changes cells of the product only, and one that ends with an error for the caller has changed nothing. -/
theorem execute_frame (launch : Launch α) :
    (launch.run = (launch.execute (launch.groups.flatMap launch.attempts)).result.map fun _ =>
      (launch.execute (launch.groups.flatMap launch.attempts)).buffers.c) ∧
    (∀ order : List (Nat × Nat), launch.Scheduled (order.flatMap launch.attempts)) ∧
    ∀ attempts, launch.Scheduled attempts →
      (launch.execute attempts).buffers = { launch.buffers with c := (launch.execute attempts).buffers.c } ∧
      (launch.execute attempts).buffers.c.size = launch.buffers.c.size ∧
      (∀ cell, (¬ ∃ row < launch.m, ∃ column < launch.n, cell = row * launch.problem.strides.c.toNat + column) →
        (launch.execute attempts).buffers.c[cell]? = launch.buffers.c[cell]?) ∧
      ∀ failure, (launch.execute attempts).result = .error failure → launch.Refusal failure →
        (launch.execute attempts).buffers = launch.buffers := by
  refine ⟨launch.run_eq_execute, launch.scheduled_of_order, ?_⟩
  intro attempts scheduled
  unfold execute
  cases passed : launch.checks with
  | error failure => exact ⟨rfl, rfl, fun _ _ => rfl, fun _ _ _ => rfl⟩
  | ok _ =>
    have apart : ∀ cell, (¬ ∃ row < launch.m, ∃ column < launch.n,
        cell = row * launch.problem.strides.c.toNat + column) →
        ∀ store, .ok store ∈ attempts → store.1 ≠ cell := by
      rintro cell outside store member rfl
      obtain ⟨group, attempted⟩ := scheduled _ member
      exact outside (element_of_attempts attempted)
    have fails : FailsAs launch.IsAccess (perform attempts launch.buffers.c).2 := by
      refine .perform launch.isAccess_indexOutOfRange (fun attempt member => ?_) _
      obtain ⟨group, attempted⟩ := scheduled _ member
      exact attempts_failsAs attempted
    refine ⟨rfl, size_perform _ _, fun cell outside => ?_, fun failure failed refused => ?_⟩
    · exact perform_frame (apart cell outside) _
    · exact absurd refused (not_refusal_of_isAccess passed (fails failure failed))

/-- Two rows of three integers with two cells between them and one behind them. -/
def paddedLaunch : Launch Int where
  kernel := plainKernel
  problem := {
    extents := ⟨2, 3, 1⟩
    memory := ⟨.fp32, .fp32, .fp32⟩
    leading := ⟨0, 0, 5⟩ }
  buffers := ⟨#[1, 2], #[3, 4, 5], Array.replicate 9 7, #[], 1⟩

open scoped KernelForge.Exact in
/-- The last element first: the run succeeds, both rows are there, and the cells around them are as before. -/
theorem execute_frame_reversed : ∃ ending, ending = paddedLaunch.execute (paddedLaunch.attempts (0, 0)).reverse ∧
    paddedLaunch.Scheduled (paddedLaunch.attempts (0, 0)).reverse ∧
    ending.result = .ok () ∧ ending.buffers.c.toList = [3, 4, 5, 7, 7, 6, 8, 10, 7] ∧
    ∀ cell ∈ [3, 4, 8], ending.buffers.c[cell]? = paddedLaunch.buffers.c[cell]? := by
  obtain ⟨-, -, framed⟩ := execute_frame paddedLaunch
  have scheduled : paddedLaunch.Scheduled (paddedLaunch.attempts (0, 0)).reverse := fun attempt member =>
    ⟨(0, 0), List.mem_reverse.mp member⟩
  obtain ⟨-, -, unchanged, -⟩ := framed _ scheduled
  have ran : (paddedLaunch.execute (paddedLaunch.attempts (0, 0)).reverse).result = .ok () ∧
      (paddedLaunch.execute (paddedLaunch.attempts (0, 0)).reverse).buffers.c.toList =
        [3, 4, 5, 7, 7, 6, 8, 10, 7] := by
    decide +kernel
  have outside : ∀ cell ∈ [3, 4, 8], ¬ ∃ row < paddedLaunch.m, ∃ column < paddedLaunch.n,
      cell = row * paddedLaunch.problem.strides.c.toNat + column := by
    decide
  exact ⟨_, rfl, scheduled, ran.1, ran.2, fun cell member => unchanged cell (outside cell member)⟩

end Launch

end KernelForge.Gemm
