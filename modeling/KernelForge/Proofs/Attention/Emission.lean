import KernelForge.Attention.Source
import KernelForge.Proofs.Attention.Key

/-!
The text of an attention kernel depends on nothing but what its key says. Each part of the generator is shown to write
the same statements for two kernels that agree on the operands which the part is about; an operand that a part is about
is bound, or at least computed in registers, in every pass that has the part.
-/

namespace KernelForge.Attention

open Shader (Stmt)

/-- Two checked descriptors that agree on everything that a kernel of their type uses. -/
structure Kernel.Alike (first second : Kernel) : Prop where
  descriptor : first.descriptor.Alike second.descriptor
  operands : first.operands = second.operands
  operands_eq : second.operands = second.descriptor.type.operands
  cached : ∀ operand, first.isCached operand = second.isCached operand
  bound_of_cached : ∀ operand, second.isCached operand = true →
    second.descriptor.type.operands.contains operand = true
  paddedHead : first.paddedHead = second.paddedHead
  threadgroupMemory : first.threadgroupMemory = second.threadgroupMemory
  threadgroupSize : first.threadgroupSize = second.threadgroupSize

/-- A kernel binds an operand to a buffer. -/
abbrev Kernel.Binds (kernel : Kernel) (operand : Operand) : Prop :=
  kernel.descriptor.type.operands.contains operand = true

/-- A kernel has an operand in registers at some time. -/
abbrev Kernel.Computes (kernel : Kernel) (operand : Operand) : Prop :=
  (kernel.descriptor.type.operands.union kernel.descriptor.type.registers).contains operand = true

theorem Kernel.Binds.computes {kernel : Kernel} {operand : Operand} (bound : kernel.Binds operand) :
    kernel.Computes operand := by
  rw [Kernel.Computes, OperandSet.contains_union, bound]
  rfl

namespace Kernel.Alike

variable {first second : Kernel} (alike : first.Alike second)

include alike

/-! ### Names and strides -/

theorem byColumns : first.byColumns = second.byColumns := by
  unfold Kernel.byColumns
  rw [alike.descriptor.type]

theorem parallelName : first.parallelName = second.parallelName := by
  unfold Kernel.parallelName
  rw [alike.byColumns]

theorem traversalName : first.traversalName = second.traversalName := by
  unfold Kernel.traversalName
  rw [alike.byColumns]

theorem traversalIndex : first.traversalIndex = second.traversalIndex := by
  unfold Kernel.traversalIndex
  rw [alike.byColumns]

theorem clampedOffset : first.clampedOffset = second.clampedOffset := by
  unfold Kernel.clampedOffset
  rw [alike.parallelName]

theorem paddedHeadEdge : first.paddedHeadEdge = second.paddedHeadEdge := by
  unfold Kernel.paddedHeadEdge
  rw [alike.descriptor.block, alike.descriptor.head]

theorem forwardScale : first.forwardScale = second.forwardScale := by
  unfold Kernel.forwardScale
  rw [alike.descriptor.head]

theorem backwardScale : first.backwardScale = second.backwardScale := by
  unfold Kernel.backwardScale
  rw [alike.descriptor.head]

theorem headBlocks (unroll : Shader.Unroll) (stop : UInt16) (body : List Stmt) :
    first.headBlocks unroll stop body = second.headBlocks unroll stop body := by
  unfold Kernel.headBlocks
  rw [alike.descriptor.block]

theorem traversalTiles (body : List Stmt) : first.traversalTiles body = second.traversalTiles body := by
  unfold Kernel.traversalTiles
  rw [alike.descriptor.block]

theorem blockSequence (operand : Operand) :
    first.descriptor.blockSequence operand = second.descriptor.blockSequence operand := by
  unfold Descriptor.blockSequence Descriptor.isParallel
  rw [alike.descriptor.type, alike.descriptor.block]

variable {operand : Operand}

theorem registerName (computed : second.Computes operand) :
    first.registerName operand = second.registerName operand := by
  unfold Kernel.registerName Kernel.register
  rw [alike.descriptor.register operand computed]

theorem tiles (computed : second.Computes operand) (count : UInt16) :
    first.tiles operand count = second.tiles operand count := by
  unfold Kernel.tiles
  rw [alike.registerName computed]

variable (bound : second.Binds operand)

include bound

theorem memory : first.memory operand = second.memory operand :=
  alike.descriptor.memory operand bound

theorem memoryName : first.memoryName operand = second.memoryName operand := by
  unfold Kernel.memoryName
  rw [alike.memory bound]

theorem isTransposed : first.isTransposed operand = second.isTransposed operand :=
  alike.descriptor.transposed operand bound

theorem stride : first.stride operand = second.stride operand := by
  unfold Kernel.stride
  rw [alike.isTransposed bound, alike.descriptor.head]

theorem blockStride : first.blockStride operand = second.blockStride operand := by
  unfold Kernel.blockStride
  rw [alike.isTransposed bound, alike.blockSequence, alike.descriptor.block]

theorem transposedName : first.transposedName operand = second.transposedName operand := by
  unfold Kernel.transposedName
  rw [alike.isTransposed bound]

theorem untransposedName : first.untransposedName operand = second.untransposedName operand := by
  unfold Kernel.untransposedName
  rw [alike.isTransposed bound]

theorem loadName : first.loadName operand = second.loadName operand := by
  unfold Kernel.loadName Kernel.register
  rw [alike.memory bound, alike.descriptor.register operand bound.computes]

theorem storeName : first.storeName operand = second.storeName operand := by
  unfold Kernel.storeName Kernel.register
  rw [alike.memory bound, alike.descriptor.register operand bound.computes]

theorem pointer (target matrix stride offset trans : String) :
    first.pointer operand target matrix stride offset trans =
      second.pointer operand target matrix stride offset trans := by
  unfold Kernel.pointer
  rw [alike.memoryName bound]

theorem blockPointer : first.blockPointer operand = second.blockPointer operand := by
  unfold Kernel.blockPointer
  rw [alike.memoryName bound]

/-! ### Between registers and memory -/

theorem accessName (store : Bool) : first.accessName operand store = second.accessName operand store := by
  unfold Kernel.accessName
  rw [alike.storeName bound, alike.loadName bound]

theorem cacheDirectly (store : Bool) : first.cacheDirectly operand store = second.cacheDirectly operand store := by
  simp only [Kernel.cacheDirectly, alike.stride bound, alike.transposedName bound, alike.accessName bound,
    alike.pointer bound, alike.descriptor.block]

theorem cacheCopy (store : Bool) : first.cacheCopy operand store = second.cacheCopy operand store := by
  simp only [Kernel.cacheCopy, alike.stride bound, alike.blockStride bound, alike.transposedName bound,
    alike.pointer bound, alike.memoryName bound, alike.descriptor.block, alike.descriptor.head, alike.paddedHead,
    alike.parallelName]

theorem cacheStaged (store : Bool) (offset : String) :
    first.cacheStaged operand store offset = second.cacheStaged operand store offset := by
  simp only [Kernel.cacheStaged, alike.blockStride bound, alike.transposedName bound, alike.accessName bound,
    alike.blockPointer bound, alike.pointer bound, alike.cacheCopy bound, alike.paddedHeadEdge,
    alike.descriptor.block, alike.descriptor.head]

theorem cache (store : Bool) : first.cache operand store = second.cache operand store := by
  simp only [Kernel.cache, alike.headBlocks, alike.cacheDirectly bound, alike.cacheStaged bound, alike.parallelName,
    alike.descriptor.block, alike.descriptor.head, alike.descriptor.asyncCache]

omit bound

theorem cacheLoad (operand : Operand) : first.cacheLoad operand = second.cacheLoad operand := by
  unfold Kernel.cacheLoad
  rw [alike.cached]
  split
  · rename_i kept
    have bound : second.Binds operand := alike.bound_of_cached operand kept
    rw [alike.tiles bound.computes, alike.cache bound, alike.paddedHead]
  · rfl

theorem cacheStore (operand : Operand) : first.cacheStore operand = second.cacheStore operand := by
  unfold Kernel.cacheStore
  rw [alike.cached]
  split
  · rename_i kept
    exact alike.cache (alike.bound_of_cached operand kept) true
  · rfl

theorem allocate (operand : Operand) : first.allocate operand = second.allocate operand := by
  unfold Kernel.allocate
  rw [alike.cached]
  split
  · rename_i kept
    have bound : second.Binds operand := alike.bound_of_cached operand kept
    rw [alike.tiles bound.computes, alike.registerName bound.computes, alike.paddedHead]
  · rfl

/-! ### Products along the head dimension -/

section Bound

variable (bound : second.Binds operand)

include bound

theorem loadLeft (space : Shader.AddressSpace) : first.loadLeft operand space = second.loadLeft operand space := by
  simp only [Kernel.loadLeft, alike.tiles bound.computes, alike.memoryName bound, alike.stride bound,
    alike.blockStride bound, alike.transposedName bound, alike.loadName bound, alike.pointer bound,
    alike.blockPointer bound, alike.clampedOffset, alike.paddedHeadEdge, alike.parallelName, alike.descriptor.block,
    alike.descriptor.head]

theorem rightCopy : first.rightCopy operand = second.rightCopy operand := by
  simp only [Kernel.rightCopy, alike.memoryName bound, alike.stride bound, alike.blockStride bound,
    alike.transposedName bound, alike.pointer bound, alike.paddedHeadEdge, alike.traversalName, alike.traversalIndex,
    alike.descriptor.block, alike.descriptor.head]

theorem stageRight (trans : String) : first.stageRight operand trans = second.stageRight operand trans := by
  simp only [Kernel.stageRight, alike.rightCopy bound, alike.blockPointer bound, alike.pointer bound,
    alike.blockStride bound]

theorem loadRight (space : Shader.AddressSpace) : first.loadRight operand space = second.loadRight operand space := by
  simp only [Kernel.loadRight, alike.untransposedName bound, alike.traversalIndex, alike.pointer bound,
    alike.stride bound, alike.stageRight bound]

end Bound

section Outer

variable {step : OuterStep} (right : second.Binds step.right)

include right

theorem outerHead (start stop : UInt16) : first.outerHead step start stop = second.outerHead step start stop := by
  simp only [Kernel.outerHead, alike.stride right, alike.blockStride right, alike.registerName right.computes,
    alike.loadName right, alike.untransposedName right]

theorem outerTraversal (start stop : String) :
    first.outerTraversal step start stop = second.outerTraversal step start stop := by
  simp only [Kernel.outerTraversal, alike.outerHead right, alike.paddedHeadEdge, alike.descriptor.block,
    alike.descriptor.head]

theorem outerStep (left : second.Binds step.left) : first.outerStep step = second.outerStep step := by
  simp only [Kernel.outerStep, alike.cached, alike.loadLeft left, alike.loadRight right, alike.outerTraversal right,
    alike.traversalIndex, alike.traversalName, alike.descriptor.block]

theorem gatedStep (left : second.Binds step.left) : first.gatedStep step = second.gatedStep step := by
  have moved : ∀ leftSpace rightSpace edge,
      first.outerStep { step with leftSpace, rightSpace, edge } =
        second.outerStep { step with leftSpace, rightSpace, edge } :=
    fun _ _ _ => alike.outerStep right left
  simp only [Kernel.gatedStep, OuterStep.staged, moved, alike.traversalIndex, alike.traversalName,
    alike.descriptor.block, alike.descriptor.head, alike.descriptor.asyncCache, alike.descriptor.asyncLoad]

end Outer

theorem outerProduct {left right result : Operand} (boundLeft : second.Binds left) (boundRight : second.Binds right)
    (computed : second.Computes result) :
    first.outerProduct left right result = second.outerProduct left right result := by
  have gated : ∀ registerOffset accumulate,
      first.gatedStep { left, right, result, registerOffset, accumulate } =
        second.gatedStep { left, right, result, registerOffset, accumulate } :=
    fun _ _ => alike.gatedStep boundRight boundLeft
  have staged : ∀ registerOffset accumulate,
      first.outerStep (OuterStep.staged { left, right, result, registerOffset, accumulate }) =
        second.outerStep (OuterStep.staged { left, right, result, registerOffset, accumulate }) :=
    fun _ _ => alike.outerStep boundRight boundLeft
  simp only [Kernel.outerProduct, alike.cached, alike.tiles computed, alike.registerName computed, gated, staged,
    alike.headBlocks, alike.paddedHead, alike.descriptor.block, alike.descriptor.head]

/-! ### Sums over the traversal -/

section Sum

variable {sum : Accumulation} (right : second.Binds sum.right)

include right

theorem accumulateHead (offset : String) (start stop : UInt16) :
    first.accumulateHead sum offset start stop = second.accumulateHead sum offset start stop := by
  simp only [Kernel.accumulateHead, alike.registerName right.computes, alike.loadName right, alike.blockStride right,
    alike.transposedName right]

theorem accumulateTraversal (offset : String) (extent : Option UInt16) (start stop : String) :
    first.accumulateTraversal sum offset extent start stop =
      second.accumulateTraversal sum offset extent start stop := by
  simp only [Kernel.accumulateTraversal, alike.accumulateHead right, alike.paddedHeadEdge, alike.descriptor.block,
    alike.descriptor.head]

theorem accumulateStep (result : second.Binds sum.result) (offset : String) (extent : Option UInt16) :
    first.accumulateStep sum offset extent = second.accumulateStep sum offset extent := by
  simp only [Kernel.accumulateStep, alike.cached, alike.registerName result.computes, alike.cacheStaged result,
    alike.stageRight right, alike.transposedName right, alike.accumulateTraversal right, alike.traversalIndex,
    alike.traversalName, alike.descriptor.block]

theorem accumulate (result : second.Binds sum.result) : first.accumulate sum = second.accumulate sum := by
  simp only [Kernel.accumulate, alike.cached, alike.accumulateStep right result, alike.headBlocks,
    alike.tiles result.computes, alike.paddedHeadEdge, alike.paddedHead, alike.descriptor.block,
    alike.descriptor.head]

end Sum

/-! ### The row term -/

theorem tileLoad (bound : second.Binds operand) (source stride origin : String) :
    first.tileLoad operand source stride origin = second.tileLoad operand source stride origin := by
  simp only [Kernel.tileLoad, alike.registerName bound.computes, alike.loadName bound, alike.transposedName bound]

theorem rowTerm (output : second.Binds .o) (derivative : second.Binds .dO) : first.rowTerm = second.rowTerm := by
  have tiles : ∀ whole, first.rowTermTiles whole = second.rowTermTiles whole := by
    intro whole
    simp only [Kernel.rowTermTiles, alike.cached, alike.pointer output, alike.pointer derivative,
      alike.stride output, alike.stride derivative, alike.transposedName output, alike.transposedName derivative,
      alike.tileLoad output, alike.tileLoad derivative, alike.clampedOffset]
  have offset : ∀ operand, first.edgeOffset operand = second.edgeOffset operand := by
    intro operand
    simp only [Kernel.edgeOffset, alike.memory derivative, alike.descriptor.block]
  have stride : ∀ operand, second.Binds operand → first.edgeStride operand = second.edgeStride operand := by
    intro operand bound
    simp only [Kernel.edgeStride, alike.isTransposed bound, alike.descriptor.block]
  have copy : ∀ event operand whole, second.Binds operand →
      first.edgeCopy event operand whole = second.edgeCopy event operand whole := by
    intro event operand whole bound
    simp only [Kernel.edgeCopy, alike.pointer bound, alike.stride bound, alike.transposedName bound,
      alike.memoryName bound, offset, stride operand bound]
  have tile : ∀ operand, second.Binds operand → first.edgeTile operand = second.edgeTile operand := by
    intro operand bound
    simp only [Kernel.edgeTile, alike.memoryName bound, alike.pointer bound, alike.transposedName bound,
      alike.tileLoad bound, offset, stride operand bound]
  have edge : ∀ whole, first.rowTermEdge whole = second.rowTermEdge whole := by
    intro whole
    simp only [Kernel.rowTermEdge, copy _ _ _ output, copy _ _ _ derivative, tile _ output, tile _ derivative,
      alike.descriptor.block, alike.descriptor.head]
  simp only [Kernel.rowTerm, tiles, edge, alike.backwardScale, alike.descriptor.head]

/-! ### Scores and probabilities -/

theorem maskEdge (scores : second.Computes .s) : first.maskEdge = second.maskEdge := by
  simp only [Kernel.maskEdge, alike.registerName scores, alike.traversalIndex, alike.traversalName,
    alike.descriptor.block]

theorem onlineSoftmax (weights : second.Computes .p) : first.onlineSoftmax = second.onlineSoftmax := by
  simp only [Kernel.onlineSoftmax, alike.forwardScale, alike.registerName weights, alike.tiles weights,
    alike.traversalTiles, alike.descriptor.block]

theorem probabilities (weights : second.Computes .p) (term : String) :
    first.probabilities term = second.probabilities term := by
  simp only [Kernel.probabilities, alike.forwardScale, alike.registerName weights, alike.tiles weights,
    alike.traversalTiles, alike.descriptor.block]

theorem scoreDerivatives (derivative : second.Computes .dS) (term : String) :
    first.scoreDerivatives term = second.scoreDerivatives term := by
  simp only [Kernel.scoreDerivatives, alike.backwardScale, alike.registerName derivative, alike.tiles derivative,
    alike.traversalTiles, alike.descriptor.block]

theorem columnTerms (bound : second.Binds operand) : first.columnTerms operand = second.columnTerms operand := by
  simp only [Kernel.columnTerms, alike.memoryName bound, alike.traversalTiles, alike.descriptor.block,
    alike.descriptor.asyncLoad]

theorem storeScoreDerivatives (bound : second.Binds .dST) :
    first.storeScoreDerivatives = second.storeScoreDerivatives := by
  simp only [Kernel.storeScoreDerivatives, alike.traversalTiles, alike.memoryName bound]

/-! ### The kernel -/

theorem constantLines : first.constantLines = second.constantLines := by
  simp only [Kernel.constantLines, alike.traversalName, alike.operands, alike.descriptor.block, alike.descriptor.type]

theorem arguments : first.arguments = second.arguments := by
  unfold Kernel.arguments
  rw [alike.operands]
  refine congrArg (· ++ _) (List.map_congr_left ?_)
  intro operand member
  have bound : second.Binds operand := by
    rw [Kernel.Binds, ← alike.operands_eq]
    exact OperandSet.mem_toList.mp member
  rw [alike.memoryName bound]

section Known

variable (known : second.descriptor.type ∈ KernelType.all)

include known

theorem setup : first.setup = second.setup := by
  simp only [Kernel.setup, alike.descriptor.type, alike.operands, alike.cacheLoad, alike.allocate,
    alike.clampedOffset]
  by_cases pass : second.descriptor.type.pass = .backwardQuery
  · have binds : ∀ type ∈ KernelType.all, type.pass = .backwardQuery →
        type.operands.contains .o = true ∧ type.operands.contains .dO = true := by decide
    obtain ⟨output, derivative⟩ := binds _ known pass
    rw [alike.rowTerm output derivative]
  · simp only [if_neg pass]

theorem cleanup : first.cleanup = second.cleanup := by
  have logarithms : second.operands.contains .l = true → first.memoryName .l = second.memoryName .l := by
    rw [alike.operands_eq]
    exact alike.memoryName
  have rowTerms : ∀ type ∈ KernelType.all, type.pass = .backwardQuery → type.operands.contains .d = true := by
    decide
  simp only [Kernel.cleanup, alike.descriptor.type, alike.operands, alike.cacheStore, alike.parallelName]
  by_cases pass : second.descriptor.type.pass = .backwardQuery
  · rw [alike.memoryName (rowTerms _ known pass)]
    simp [pass]
  · by_cases stored : second.operands.contains .l = true
    · simp only [if_neg pass, logarithms stored]
    · simp only [if_neg pass, if_neg stored]

theorem forwardStep (pass : second.descriptor.type.pass = .forward) : first.traversalStep = second.traversalStep := by
  have binds : ∀ type ∈ KernelType.all, type.pass = .forward →
      ∀ operand ∈ [Operand.q, .k, .v, .o], type.operands.contains operand = true := by decide
  have computes : ∀ type ∈ KernelType.all, type.pass = .forward →
      ∀ operand ∈ [Operand.s, .p], (type.operands.union type.registers).contains operand = true := by decide
  replace binds := binds _ known pass
  replace computes := computes _ known pass
  have sum : ∀ everyScale lastScale, first.accumulate ⟨.p, .v, .o, everyScale, lastScale⟩ =
      second.accumulate ⟨.p, .v, .o, everyScale, lastScale⟩ :=
    fun _ _ => alike.accumulate (binds .v (by decide)) (binds .o (by decide))
  simp only [Kernel.traversalStep, alike.descriptor.type, if_pos pass, sum,
    alike.outerProduct (binds .q (by decide)) (binds .k (by decide)) (computes .s (by decide)),
    alike.maskEdge (computes .s (by decide)), alike.onlineSoftmax (computes .p (by decide))]

theorem backwardQueryStep (pass : second.descriptor.type.pass = .backwardQuery)
    (loops : second.descriptor.type.hasLoop = true) : first.traversalStep = second.traversalStep := by
  have binds : ∀ type ∈ KernelType.all, type.pass = .backwardQuery → type.hasLoop = true →
      ∀ operand ∈ [Operand.q, .k, .v, .dO, .dQ], type.operands.contains operand = true := by decide
  have computes : ∀ type ∈ KernelType.all, type.pass = .backwardQuery → type.hasLoop = true →
      ∀ operand ∈ [Operand.s, .p, .dP, .dS], (type.operands.union type.registers).contains operand = true := by
    decide
  replace binds := binds _ known pass loops
  replace computes := computes _ known pass loops
  have sum : ∀ everyScale lastScale, first.accumulate ⟨.dS, .k, .dQ, everyScale, lastScale⟩ =
      second.accumulate ⟨.dS, .k, .dQ, everyScale, lastScale⟩ :=
    fun _ _ => alike.accumulate (binds .k (by decide)) (binds .dQ (by decide))
  have other : second.descriptor.type.pass ≠ .forward := by
    rw [pass]
    decide
  simp only [Kernel.traversalStep, alike.descriptor.type, if_neg other, if_pos pass, sum,
    alike.outerProduct (binds .q (by decide)) (binds .k (by decide)) (computes .s (by decide)),
    alike.outerProduct (binds .dO (by decide)) (binds .v (by decide)) (computes .dP (by decide)),
    alike.probabilities (computes .p (by decide)), alike.scoreDerivatives (computes .dS (by decide))]

theorem backwardKeyValueStep (pass : second.descriptor.type.pass = .backwardKeyValue) :
    first.traversalStep = second.traversalStep := by
  have binds : ∀ type ∈ KernelType.all, type.pass = .backwardKeyValue →
      ∀ operand ∈ [Operand.q, .k, .v, .l, .dO, .d, .dV], type.operands.contains operand = true := by decide
  have computes : ∀ type ∈ KernelType.all, type.pass = .backwardKeyValue →
      ∀ operand ∈ [Operand.s, .p, .dP, .dS], (type.operands.union type.registers).contains operand = true := by
    decide
  have last : ∀ type ∈ KernelType.all, type.pass = .backwardKeyValue →
      type.operands.contains (if type.secondary = true then .dK else .dST) = true := by decide
  replace binds := binds _ known pass
  replace computes := computes _ known pass
  replace last := last _ known pass
  have sum : ∀ everyScale lastScale, first.accumulate ⟨.p, .dO, .dV, everyScale, lastScale⟩ =
      second.accumulate ⟨.p, .dO, .dV, everyScale, lastScale⟩ :=
    fun _ _ => alike.accumulate (binds .dO (by decide)) (binds .dV (by decide))
  have others : second.descriptor.type.pass ≠ .forward ∧ second.descriptor.type.pass ≠ .backwardQuery := by
    rw [pass]
    decide
  simp only [Kernel.traversalStep, alike.descriptor.type, if_neg others.1, if_neg others.2, if_pos pass, sum,
    alike.outerProduct (binds .k (by decide)) (binds .q (by decide)) (computes .s (by decide)),
    alike.outerProduct (binds .v (by decide)) (binds .dO (by decide)) (computes .dP (by decide)),
    alike.columnTerms (binds .l (by decide)), alike.columnTerms (binds .d (by decide)),
    alike.probabilities (computes .p (by decide)), alike.scoreDerivatives (computes .dS (by decide))]
  -- The derivative of the keys is summed here, or the derivative of the scores is stored for later.
  cases secondary : second.descriptor.type.secondary with
  | true =>
    have keys : ∀ everyScale lastScale, first.accumulate ⟨.dS, .q, .dK, everyScale, lastScale⟩ =
        second.accumulate ⟨.dS, .q, .dK, everyScale, lastScale⟩ :=
      fun _ _ => alike.accumulate (binds .q (by decide)) (by simpa [secondary] using last)
    simp only [if_true, keys]
  | false =>
    have stored : second.Binds .dST := by simpa [secondary] using last
    simp only [Bool.false_eq_true, if_false, alike.storeScoreDerivatives stored]

theorem traversal : first.traversal = second.traversal := by
  simp only [Kernel.traversal, alike.descriptor.type, alike.descriptor.block, alike.traversalIndex,
    alike.traversalName]
  cases loops : second.descriptor.type.hasLoop with
  | false => simp only [Bool.false_eq_true, if_false]
  | true =>
    have passes : ∀ type ∈ KernelType.all,
        type.pass = .forward ∨ type.pass = .backwardQuery ∨ type.pass = .backwardKeyValue := by decide
    rcases passes _ known with pass | pass | pass
    · rw [alike.forwardStep known pass]
    · rw [alike.backwardQueryStep known pass loops]
    · rw [alike.backwardKeyValueStep known pass]

theorem program : first.program = second.program := by
  simp only [Kernel.program, Kernel.source, Kernel.statements, Kernel.functionBody, alike.constantLines,
    alike.arguments, alike.setup known, alike.traversal known, alike.cleanup known, alike.parallelName,
    alike.descriptor.block, alike.threadgroupMemory, alike.threadgroupSize]

end Known

end Kernel.Alike

/-! ### The checks -/

theorem Descriptor.checkEach_congr {operands : List Operand} {check other : Operand → Except KernelDefect Unit}
    (same : ∀ operand ∈ operands, check operand = other operand) :
    checkEach operands check = checkEach operands other := by
  unfold checkEach
  induction operands with
  | nil => rfl
  | cons operand rest ih =>
    have later := ih fun next member => same next (by simp [member])
    change (do check operand; rest.forM check) = do other operand; rest.forM other
    rw [same operand (by simp), later]

theorem Descriptor.check_of_checkEach {operands : List Operand} {check : Operand → Except KernelDefect Unit}
    (checked : checkEach operands check = .ok ()) {operand : Operand} (member : operand ∈ operands) :
    check operand = .ok () := by
  induction operands with
  | nil => cases member
  | cons head tail ih =>
    obtain ⟨_, first, rest⟩ := bind_ok_iff.mp checked
    rcases List.mem_cons.mp member with rfl | later
    · exact first
    · exact ih rest later

namespace Descriptor.Alike

variable {first second : Descriptor} (alike : first.Alike second) (known : second.type ∈ KernelType.all)

include alike

theorem stagedBytes {operand : Operand} (bound : second.type.operands.contains operand = true) :
    first.stagedBytes operand = second.stagedBytes operand := by
  unfold Descriptor.stagedBytes Descriptor.blockSequence Descriptor.isParallel
  rw [alike.memory operand bound, alike.block, alike.type]

include known

theorem requiredMemory : first.requiredMemory = second.requiredMemory := by
  have edge : ∀ type ∈ KernelType.all, type.pass = .backwardQuery →
      type.operands.contains .dO = true ∧ type.operands.contains .o = true := by decide
  have slices : ∀ type ∈ KernelType.all, type.pass = .backwardKeyValue →
      type.operands.contains .l = true ∧ type.operands.contains .d = true := by decide
  have matrices : ∀ matrix : Operand → Bool,
      (second.type.operands.toList.filter matrix).map first.stagedBytes =
        (second.type.operands.toList.filter matrix).map second.stagedBytes := by
    intro matrix
    refine List.map_congr_left fun operand member => alike.stagedBytes ?_
    exact OperandSet.mem_toList.mp (List.mem_filter.mp member).1
  simp only [Descriptor.requiredMemory, alike.type, alike.block, matrices]
  by_cases query : second.type.pass = .backwardQuery
  · obtain ⟨derivative, output⟩ := edge _ known query
    simp only [query, alike.memory _ derivative, alike.memory _ output]
    rfl
  by_cases keyValue : second.type.pass = .backwardKeyValue
  · obtain ⟨logarithms, rowTerms⟩ := slices _ known keyValue
    simp only [if_neg query, alike.memory _ logarithms, alike.memory _ rowTerms]
  · simp only [if_neg query, if_neg keyValue]

/-- Both are refused for the same reason, or neither is. -/
theorem ofDescriptor :
    Kernel.ofDescriptor first = (Kernel.ofDescriptor second).map fun kernel =>
      { kernel with
        descriptor := first
        cached := (first.cache.inter first.type.operands).inter first.type.pass.cacheable } := by
  have accumulators : ∀ type ∈ KernelType.all, ∀ operand ∈ type.accumulators.toList,
      (type.operands.union type.registers).contains operand = true := by decide
  have computes : ∀ operand, second.type.operands.contains operand = true →
      first.register.get operand = second.register.get operand := by
    intro operand bound
    refine alike.register operand ?_
    rw [OperandSet.contains_union, bound]
    rfl
  have assigned : Descriptor.checkEach second.type.operands.toList first.checkAssigned =
      Descriptor.checkEach second.type.operands.toList second.checkAssigned := by
    refine Descriptor.checkEach_congr fun operand member => ?_
    have bound := OperandSet.mem_toList.mp member
    simp only [Descriptor.checkAssigned, alike.memory operand bound, computes operand bound]
  have registers : Descriptor.checkEach second.type.registers.toList first.checkRegister =
      Descriptor.checkEach second.type.registers.toList second.checkRegister := by
    refine Descriptor.checkEach_congr fun operand member => ?_
    have computed : (second.type.operands.union second.type.registers).contains operand = true := by
      simp [OperandSet.mem_toList.mp member]
    simp only [Descriptor.checkRegister, alike.register operand computed]
  have pairs : Descriptor.checkEach second.type.operands.toList first.checkPair =
      Descriptor.checkEach second.type.operands.toList second.checkPair := by
    refine Descriptor.checkEach_congr fun operand member => ?_
    have bound := OperandSet.mem_toList.mp member
    simp only [Descriptor.checkPair, alike.memory operand bound, computes operand bound]
  have sums : Descriptor.checkEach second.type.accumulators.toList first.checkAccumulator =
      Descriptor.checkEach second.type.accumulators.toList second.checkAccumulator := by
    refine Descriptor.checkEach_congr fun operand member => ?_
    simp only [Descriptor.checkAccumulator, alike.register operand (accumulators _ known operand member)]
  unfold Kernel.ofDescriptor
  simp only [alike.type, alike.block, alike.head, assigned, registers, pairs, sums, alike.requiredMemory known,
    map_of_bind, apply_ite (Except.map _)]
  rfl

end Descriptor.Alike

/-- What a checked descriptor says about itself and about its kernel. -/
structure Made (descriptor : Descriptor) (kernel : Kernel) : Prop where
  valid : descriptor.type.pass.isValid = true
  parallelization : descriptor.block.parallelization ≠ 0
  traversal : descriptor.block.traversal ≠ 0
  wide : ∀ operand ∈ descriptor.type.accumulators.toList, descriptor.register.get operand = .fp32
  same : kernel.descriptor = descriptor
  operands : kernel.operands = descriptor.type.operands
  cached : kernel.cached =
    (descriptor.cache.inter descriptor.type.operands).inter descriptor.type.pass.cacheable

theorem made_of_ofDescriptor {descriptor : Descriptor} {kernel : Kernel}
    (made : Kernel.ofDescriptor descriptor = .ok kernel) : Made descriptor kernel := by
  unfold Kernel.ofDescriptor at made
  simp only [refuse_ok_iff, bind_ok_iff, Bool.not_eq_true', Bool.not_eq_false, Bool.or_eq_true, decide_eq_true_eq,
    not_or, pure, Except.pure, Except.ok.injEq] at made
  obtain ⟨valid, _, ⟨⟨parallelization, traversal⟩, _⟩, _, _, _, _, _, _, _, _, _, accumulators, _, rfl⟩ := made
  refine ⟨valid, parallelization, traversal, fun operand member => ?_, rfl, rfl, rfl⟩
  have wide := Descriptor.check_of_checkEach accumulators member
  unfold Descriptor.checkAccumulator at wide
  split at wide
  · assumption
  · cases wide

theorem generate_of_alike {first second : Descriptor} (alike : first.Alike second)
    (known : second.type ∈ KernelType.all) : generate first = generate second := by
  unfold generate
  rw [alike.ofDescriptor known]
  cases made : Kernel.ofDescriptor second with
  | error defect => rfl
  | ok kernel =>
    obtain ⟨-, -, -, -, rfl, operands, cached⟩ := made_of_ofDescriptor made
    refine congrArg Except.ok (Kernel.Alike.program ?_ known)
    refine ⟨alike, rfl, operands, ?_, ?_, rfl, rfl, rfl⟩
    · intro operand
      simp only [Kernel.isCached, cached, OperandSet.contains_inter, alike.type]
      by_cases bound : kernel.descriptor.type.operands.contains operand = true
      · rw [alike.cache operand bound]
      · simp [bound]
    · intro operand kept
      simp only [Kernel.isCached, cached, OperandSet.contains_inter, Bool.and_eq_true] at kept
      exact kept.1.2

theorem generate_of_invalid {descriptor : Descriptor} (invalid : descriptor.type.pass.isValid = false) :
    generate descriptor = .error KernelDefect.passUnset.failure := by
  unfold generate Kernel.ofDescriptor
  simp [invalid, throw, throwThe, MonadExceptOf.throw, bind, Except.bind]

theorem generate_of_key {first second : Descriptor} (same : first.key = second.key) :
    generate first = generate second := by
  rcases alike_of_key same with alike | ⟨left, right⟩
  · cases valid : second.type.pass.isValid with
    | true => exact generate_of_alike alike (KernelType.mem_all valid)
    | false => rw [generate_of_invalid valid, generate_of_invalid (alike.type ▸ valid)]
  · rw [generate_of_invalid left, generate_of_invalid right]

/-- A forward pass in single precision. -/
def singleForward : Descriptor where
  block := ⟨16, 128, 8⟩
  cache := .ofList [.q]
  memory := Precisions.unset.setAll Operand.all .fp32
  register := Precisions.unset.setAll Operand.all .fp32
  head := 64
  type := ⟨.forward, true⟩

/-- The same, prepared for operands of the backward passes. -/
def preparedForward : Descriptor :=
  { singleForward with
    cache := .ofList [.q, .dQ]
    transposed := .ofList [.dK]
    memory := singleForward.memory.set .dO .fp16 }

end KernelForge.Attention

namespace KernelForge

/-- Descriptors with one key make one program, or are refused for one reason. -/
theorem generate_eq_of_key_eq :
    (∀ first second : Gemm.Descriptor, first.key = second.key → Gemm.generate first = Gemm.generate second) ∧
      ∀ first second : Attention.Descriptor, first.key = second.key →
        Attention.generate first = Attention.generate second :=
  ⟨fun _ _ => Gemm.generate_of_key, fun _ _ => Attention.generate_of_key⟩

theorem generate_eq_prepared :
    (Gemm.unbiasedProduct ≠ Gemm.preparedProduct ∧ Gemm.unbiasedProduct.key = Gemm.preparedProduct.key ∧
      Gemm.generate Gemm.unbiasedProduct = Gemm.generate Gemm.preparedProduct) ∧
    Attention.singleForward ≠ Attention.preparedForward ∧
      Attention.singleForward.key = Attention.preparedForward.key ∧
      Attention.generate Attention.singleForward = Attention.generate Attention.preparedForward :=
  ⟨⟨by decide, rfl, generate_eq_of_key_eq.1 _ _ rfl⟩, by decide, by decide, generate_eq_of_key_eq.2 _ _ (by decide)⟩

end KernelForge
