import KernelForge.Attention.Source
import KernelForge.Proofs.Gemm.Bracket

/-!
Brackets of the text of an attention kernel, part by part, and of all generated texts: braces and parentheses of a
kernel nest, whatever the kernel.
-/

namespace KernelForge.Attention

open Text (effect effect_append effect_word effect_numeral effect_empty)
open Shader (effectAll effectAll_append effectAll_ite Stmt.effect effect_tileLoop effectAll_fenced effect_boolean
  inBraces inBraces_one inParentheses inParentheses_one)

@[simp]
theorem Operand.effect_name (operand : Operand) : effect operand.name = 1 := by
  cases operand <;> rfl

theorem effect_sequenceName (operand : Operand) : effect (sequenceName operand) = 1 := by
  unfold sequenceName
  split <;> rfl

theorem effect_groupOffset : effect groupOffset = 1 := by
  rw [groupOffset, Text.effect_literal rfl]
  cbv

theorem effect_threadOffset : effect threadOffset = 1 := by
  rw [threadOffset, Text.effect_literal rfl]
  cbv

namespace Kernel

variable (kernel : Kernel)

theorem effect_parallelName : effect kernel.parallelName = 1 := by
  unfold parallelName
  split <;> rfl

theorem effect_traversalName : effect kernel.traversalName = 1 := by
  unfold traversalName
  split <;> rfl

theorem effect_traversalIndex : effect kernel.traversalIndex = 1 := by
  unfold traversalIndex
  split <;> rfl

theorem effect_clampedOffset : effect kernel.clampedOffset = 1 := by
  simp only [clampedOffset, Text.toString_self, effect_append, effect_threadOffset, effect_parallelName]
  simp (disch := rfl) only [Text.effect_literal]
  cbv

theorem effect_forwardScale : effect kernel.forwardScale = 1 :=
  Text.effect_general 9 _

theorem effect_backwardScale : effect kernel.backwardScale = 1 :=
  Text.effect_general 9 _

theorem effect_memoryName (operand : Operand) : effect (kernel.memoryName operand) = 1 :=
  Precision.effect_scalarName _

theorem effect_registerName (operand : Operand) : effect (kernel.registerName operand) = 1 :=
  Precision.effect_scalarName _

theorem effect_stride (operand : Operand) : effect (kernel.stride operand) = 1 := by
  unfold stride
  split
  · exact effect_sequenceName operand
  · exact effect_word _

theorem effect_transposedName (operand : Operand) : effect (kernel.transposedName operand) = 1 :=
  effect_boolean _

theorem effect_untransposedName (operand : Operand) : effect (kernel.untransposedName operand) = 1 :=
  effect_boolean _

theorem effect_loadName (operand : Operand) : effect (kernel.loadName operand) = 1 :=
  Precision.effect_loadFunction _ _

theorem effect_storeName (operand : Operand) : effect (kernel.storeName operand) = 1 :=
  Precision.effect_storeFunction _ _

theorem effect_tiles (operand : Operand) (count : UInt16) : (kernel.tiles operand count).effect = 1 := by
  simp only [tiles, Stmt.effect, Text.toString_self, effect_append, effect_registerName, Operand.effect_name,
    effect_word]
  simp (disch := rfl) only [Text.effect_literal]
  cbv

/-- A pointer that is assigned to a target and has an offset. -/
theorem effect_pointer (operand : Operand) (target matrix stride offset trans : String) :
    (kernel.pointer operand target matrix stride offset trans).effect =
      effect target * inParentheses (effect matrix * effect stride * effect offset * effect trans) := by
  have opening : effect " = simdgroup_matrix_storage<" = 1 := rfl
  have call : effect ">::apply_offset(" = ⟨1, ⟨0, 1⟩, 0⟩ := rfl
  have comma : effect ", " = 1 := rfl
  have closing : effect ");" = ⟨1, ⟨1, 0⟩, 0⟩ := rfl
  simp only [pointer, Stmt.effect, Text.toString_self, effect_append, effect_memoryName, opening, call, comma,
    closing, inParentheses, mul_one, mul_assoc]

theorem effect_blockPointer (operand : Operand) : (kernel.blockPointer operand).effect = 1 := by
  simp only [blockPointer, Stmt.effect, Text.toString_self, effect_append, effect_memoryName, Operand.effect_name]
  simp (disch := rfl) only [Text.effect_literal]
  cbv

theorem effect_tilesFrom (index start stop : String) (body : List Shader.Stmt) :
    (tilesFrom index start stop body).effect =
      inParentheses (effect index * effect start * effect index * effect stop * effect index) *
        inBraces (effectAll body) := by
  have word : effect "ushort " = 1 := rfl
  have equals : effect " = " = 1 := rfl
  have semicolon : effect "; " = 1 := rfl
  have below : effect " < " = 1 := rfl
  have step : effect " += 8" = 1 := rfl
  simp only [tilesFrom, Stmt.effect, Text.toString_self, effect_append, word, equals, semicolon, below, step, mul_one,
    one_mul]

theorem effect_headBlocks (unroll : Shader.Unroll) (stop : UInt16) (body : List Shader.Stmt) :
    (kernel.headBlocks unroll stop body).effect = inBraces (effectAll body) := by
  have opening : effect "ushort d_outer = 0; d_outer < " = 1 := rfl
  have step : effect "; d_outer += " = 1 := rfl
  simp only [headBlocks, Stmt.effect, Text.toString_self, effect_append, effect_word, opening, step, mul_one,
    inParentheses_one, one_mul]

theorem effect_traversalTiles (body : List Shader.Stmt) :
    (kernel.traversalTiles body).effect = inBraces (effectAll body) := by
  have index : effect "c" = 1 := rfl
  rw [traversalTiles, effect_tileLoop, index]
  exact one_mul _

/-! ### Operands that are kept -/

theorem effect_accessName (operand : Operand) (store : Bool) : effect (kernel.accessName operand store) = 1 := by
  unfold accessName
  split
  · exact kernel.effect_storeName operand
  · exact kernel.effect_loadName operand

theorem effectAll_cacheDirectly (operand : Operand) (store : Bool) :
    effectAll (kernel.cacheDirectly operand store) = 1 := by
  simp only [cacheDirectly, effectAll, Stmt.effect, effect_pointer, effect_tileLoop, Text.toString_self,
    effect_append, effect_threadOffset, effect_stride, effect_transposedName, effect_accessName, Operand.effect_name]
  simp (disch := rfl) only [Text.effect_literal]
  cbv

theorem effectAll_cacheCopy (operand : Operand) (store : Bool) : effectAll (kernel.cacheCopy operand store) = 1 := by
  cases store
  all_goals
    simp only [cacheCopy, effectAll, Stmt.effect, effect_pointer, Text.toString_self, effect_append,
      effect_groupOffset, effect_parallelName, effect_stride, effect_transposedName, effect_memoryName, effect_word,
      Operand.effect_name, Bool.false_eq_true, ↓reduceIte]
    simp (disch := rfl) only [Text.effect_literal]
    cbv

theorem effectAll_cacheStaged (operand : Operand) (store : Bool) {offset : String} (plain : effect offset = 1) :
    effectAll (kernel.cacheStaged operand store offset) = 1 := by
  have index : effect "d" = 1 := rfl
  unfold cacheStaged
  dsimp only
  split <;> split
  all_goals
    simp only [List.cons_append, List.nil_append, effectAll, effectAll_append, effectAll_fenced, Stmt.effect,
      effect_pointer, effect_blockPointer, effect_tileLoop, effectAll_cacheCopy, Text.toString_self, effect_append,
      effect_transposedName, effect_accessName, effect_word, Operand.effect_name, plain]
    simp (disch := rfl) only [Text.effect_literal]
    cbv

theorem effectAll_cache (operand : Operand) (store : Bool) : effectAll (kernel.cache operand store) = 1 := by
  have offset : effect "d_outer" = 1 := rfl
  have zero : effect "0" = 1 := rfl
  have always : effect "true" = 1 := rfl
  have condition : effect (if (!kernel.descriptor.asyncCache) &&
      kernel.descriptor.head % kernel.descriptor.block.head ≠ 0 then
        s!"d_outer + {kernel.descriptor.block.head} <= {kernel.descriptor.head}"
      else Shader.boolean (!kernel.descriptor.asyncCache)) = 1 := by
    split
    · simp only [Text.toString_self, effect_append, effect_word]
      rfl
    · exact effect_boolean _
  have verb : effect (if store then "Store" else "Load") = 1 := by
    split <;> rfl
  simp only [cache, effectAll, Stmt.effect, effect_headBlocks, effectAll_cacheDirectly,
    effectAll_cacheStaged _ _ _ offset, condition]
  simp only [Text.toString_self, effect_append, effect_threadOffset, effect_parallelName, Operand.effect_name, verb]
  simp (disch := rfl) only [Text.effect_literal]
  cbv

theorem effectAll_cacheLoad (operand : Operand) : effectAll (kernel.cacheLoad operand) = 1 := by
  unfold cacheLoad
  split
  · rw [effectAll, effect_tiles, effectAll_cache, one_mul]
  · rfl

theorem effectAll_cacheStore (operand : Operand) : effectAll (kernel.cacheStore operand) = 1 := by
  unfold cacheStore
  split
  · exact kernel.effectAll_cache operand true
  · rfl

theorem effectAll_allocate (operand : Operand) : effectAll (kernel.allocate operand) = 1 := by
  unfold allocate
  split
  · simp only [effectAll, Stmt.effect, effect_tiles, effect_tileLoop, Text.toString_self, effect_append,
      effect_registerName, Operand.effect_name]
    simp (disch := rfl) only [Text.effect_literal]
    cbv
  · rfl

/-! ### Products -/

theorem effectAll_loadLeft (operand : Operand) (space : Shader.AddressSpace) :
    effectAll (kernel.loadLeft operand space) = 1 := by
  cases space
  all_goals
    simp only [loadLeft, effectAll, effectAll_append, effectAll_fenced, Stmt.effect, effect_tiles, effect_pointer,
      effect_blockPointer, effect_tileLoop, Text.toString_self, effect_append, effect_clampedOffset,
      effect_groupOffset, effect_parallelName, effect_stride, effect_transposedName, effect_loadName,
      effect_memoryName, effect_word, Operand.effect_name]
    simp (disch := rfl) only [Text.effect_literal]
    cbv

theorem effectAll_rightCopy (operand : Operand) : effectAll (kernel.rightCopy operand) = 1 := by
  simp only [rightCopy, effectAll, Stmt.effect, effect_pointer, Text.toString_self, effect_append,
    effect_traversalIndex, effect_traversalName, effect_stride, effect_transposedName, effect_memoryName, effect_word,
    Operand.effect_name]
  simp (disch := rfl) only [Text.effect_literal]
  cbv

theorem effectAll_stageRight (operand : Operand) {trans : String} (plain : effect trans = 1) :
    effectAll (kernel.stageRight operand trans) = 1 := by
  simp only [stageRight, effectAll, effectAll_fenced, effectAll_rightCopy, effect_blockPointer, effect_pointer,
    Text.toString_self, effect_append, effect_word, Operand.effect_name, plain]
  simp (disch := rfl) only [Text.effect_literal]
  cbv

theorem effectAll_loadRight (operand : Operand) (space : Shader.AddressSpace) :
    effectAll (kernel.loadRight operand space) = 1 := by
  cases space
  · simp only [loadRight, effectAll, Stmt.effect, effect_pointer, Text.toString_self, effect_append,
      effect_traversalIndex, effect_stride, effect_untransposedName, Operand.effect_name]
    simp (disch := rfl) only [Text.effect_literal]
    cbv
  · exact kernel.effectAll_stageRight operand (kernel.effect_untransposedName operand)

/-- The texts of a step that are given by its caller have no open brackets. -/
def OuterStep.Plain (step : OuterStep) : Prop :=
  effect step.registerOffset = 1 ∧ effect step.accumulate = 1

variable {step : OuterStep}

theorem effect_outerHead (plain : step.Plain) (start stop : UInt16) :
    (kernel.outerHead step start stop).effect = 1 := by
  unfold outerHead
  cases step.rightSpace
  all_goals
    simp only [effect_tilesFrom, effectAll, Stmt.effect, Text.toString_self, effect_append, effect_stride,
      effect_registerName, effect_loadName, effect_untransposedName, effect_word, Operand.effect_name, plain.1,
      plain.2]
    simp (disch := rfl) only [Text.effect_literal]
    cbv

theorem effect_outerTraversal (plain : step.Plain) {start stop : String} (first : effect start = 1)
    (last : effect stop = 1) : (kernel.outerTraversal step start stop).effect = 1 := by
  unfold outerTraversal
  dsimp only
  split
  all_goals
    simp only [effect_tilesFrom, effectAll, Stmt.effect, effect_outerHead kernel plain, Text.toString_self,
      effect_append, effect_word, first, last]
    simp (disch := rfl) only [Text.effect_literal]
    cbv

theorem effectAll_outerStep (plain : step.Plain) : effectAll (kernel.outerStep step) = 1 := by
  have zero : effect "0" = 1 := rfl
  have edge : effect "padded_traversal_edge" = 1 := rfl
  have whole : effect (toString kernel.descriptor.block.traversal) = 1 := effect_word _
  have left : effectAll (if kernel.isCached step.left then [] else kernel.loadLeft step.left step.leftSpace) = 1 := by
    split
    · rfl
    · exact kernel.effectAll_loadLeft _ _
  unfold outerStep
  dsimp only
  rw [effectAll_append, effectAll_append, left, effectAll_loadRight]
  split
  · simp only [effectAll, Stmt.effect, effect_outerTraversal kernel plain zero edge,
      effect_outerTraversal kernel plain edge whole, Text.toString_self, effect_append, effect_word,
      effect_traversalIndex, effect_traversalName]
    simp (disch := rfl) only [Text.effect_literal]
    cbv
  · rw [effectAll, effect_outerTraversal kernel plain zero whole]
    rfl

theorem effectAll_gatedStep (plain : step.Plain) : effectAll (kernel.gatedStep step) = 1 := by
  unfold gatedStep
  dsimp only
  split
  · exact kernel.effectAll_outerStep plain
  · have staged : effectAll (kernel.outerStep step.staged) = 1 := kernel.effectAll_outerStep plain
    have direct (leftSpace rightSpace : Shader.AddressSpace) :
        effectAll (kernel.outerStep { step with leftSpace, rightSpace }) = 1 := kernel.effectAll_outerStep plain
    split
    all_goals
      simp only [effectAll, Stmt.effect, direct, staged, Text.toString_self, effect_append, effect_word,
        effect_traversalIndex, effect_traversalName]
      simp (disch := rfl) only [Text.effect_literal]
      cbv

theorem effectAll_outerProduct (left right result : Operand) :
    effectAll (kernel.outerProduct left right result) = 1 := by
  have later : effect "(d_outer > 0) || (d > 0)" = 1 := by
    rw [Text.effect_literal rfl]
    cbv
  have offset : effect "d_outer" = 1 := rfl
  have zero : effect "0" = 1 := rfl
  have always : effect "true" = 1 := rfl
  have kept : effectAll (kernel.gatedStep
      { left, right, result, registerOffset := "d_outer", accumulate := "(d_outer > 0) || (d > 0)" }) = 1 :=
    kernel.effectAll_gatedStep ⟨offset, later⟩
  have keptEdge : effectAll (kernel.outerStep (OuterStep.staged
      { left, right, result, registerOffset := "d_outer", accumulate := "(d_outer > 0) || (d > 0)" })) = 1 :=
    kernel.effectAll_outerStep ⟨offset, later⟩
  have loaded : effectAll
      (kernel.gatedStep { left, right, result, registerOffset := "0", accumulate := "true" }) = 1 :=
    kernel.effectAll_gatedStep ⟨zero, always⟩
  unfold outerProduct
  dsimp only
  split
  · rw [effectAll_append, effectAll_append, effectAll_ite]
    simp only [effectAll, Stmt.effect, effect_tiles, effect_headBlocks, kept, keptEdge, Text.toString_self,
      effect_append, effect_word]
    split
    · simp (disch := rfl) only [Text.effect_literal]
      cbv
    · rfl
  · simp only [effectAll, Stmt.effect, effect_tiles, effect_tileLoop, effect_headBlocks, loaded, Text.toString_self,
      effect_append, effect_registerName, Operand.effect_name]
    simp (disch := rfl) only [Text.effect_literal]
    cbv

/-! ### Sums -/

/-- The factors of a sum have no open brackets. -/
def Accumulation.Plain (sum : Accumulation) : Prop :=
  (∀ factor ∈ sum.everyScale, effect factor = 1) ∧ ∀ factor ∈ sum.lastScale, effect factor = 1

variable {sum : Accumulation} {offset : String}

theorem effect_accumulateHead (sum : Accumulation) (plain : effect offset = 1) (start stop : UInt16) :
    (kernel.accumulateHead sum offset start stop).effect = 1 := by
  simp only [accumulateHead, effect_tilesFrom, effectAll, Stmt.effect, Text.toString_self, effect_append,
    effect_registerName, effect_loadName, effect_transposedName, effect_word, Operand.effect_name, plain]
  simp (disch := rfl) only [Text.effect_literal]
  cbv

theorem effect_accumulateTraversal (sum : Accumulation) (plain : effect offset = 1) (extent : Option UInt16)
    {start stop : String} (first : effect start = 1) (last : effect stop = 1) :
    (kernel.accumulateTraversal sum offset extent start stop).effect = 1 := by
  unfold accumulateTraversal
  dsimp only
  split
  · simp only [effect_tilesFrom, effectAll, effect_accumulateHead kernel sum plain, first, last]
    simp (disch := rfl) only [Text.effect_literal]
    cbv
  split
  all_goals
    simp only [effect_tilesFrom, effectAll, Stmt.effect, effect_accumulateHead kernel sum plain, Text.toString_self,
      effect_append, effect_word, first, last]
    simp (disch := rfl) only [Text.effect_literal]
    cbv

theorem effectAll_accumulateStep (scales : sum.Plain) (plain : effect offset = 1) (extent : Option UInt16) :
    effectAll (kernel.accumulateStep sum offset extent) = 1 := by
  have zero : effect "0" = 1 := rfl
  have edge : effect "padded_traversal_edge" = 1 := rfl
  have whole : effect (toString kernel.descriptor.block.traversal) = 1 := effect_word _
  have index : effect "d" = 1 := rfl
  have tile : effect "_sram[d / 8] = " = 1 := rfl
  have storage : effect "simdgroup_matrix_storage<" = 1 := rfl
  have cleared : effect ">(0);" = 1 := rfl
  have scaled : effect "*(" * effect "_sram[(" * effect " + d) / 8].thread_elements()) *= " = 1 := by
    simp (disch := rfl) only [Text.effect_literal]
    cbv
  have semicolon : effect ";" = 1 := rfl
  have later : effect " > 0" = 1 := rfl
  have first : effect " == 0" = 1 := rfl
  have added : effect " + " = 1 := rfl
  have reaches : effect " >= " = 1 := rfl
  have below : effect " < " = 1 := rfl
  obtain ⟨weights, right, result, everyScale, lastScale⟩ := sum
  obtain ⟨every, last⟩ := scales
  cases everyScale <;> cases lastScale
  all_goals
    simp only [Option.mem_def, Option.some.injEq, forall_eq', reduceCtorEq, false_implies, implies_true] at every last
    simp only [accumulateStep, effectAll, effectAll_append, effectAll_ite, Stmt.effect, Option.map_some,
      Option.map_none, Option.getD_some, Option.getD_none, Option.isSome_some, Option.isSome_none, Bool.false_eq_true,
      ↓reduceIte, effect_tileLoop, effectAll_cacheStaged kernel result _ plain,
      effect_accumulateTraversal kernel _ plain extent zero edge,
      effect_accumulateTraversal kernel _ plain extent edge whole,
      effectAll_stageRight kernel right (kernel.effect_transposedName right), effect_traversalIndex,
      effect_traversalName, effect_registerName, Operand.effect_name, Text.toString_self, effect_append, effect_word,
      plain, every, last, index, tile, storage, cleared, scaled, semicolon, later, first, added, reaches, below,
      mul_one, inBraces_one, inParentheses_one, ite_self]

theorem effectAll_accumulate (scales : sum.Plain) : effectAll (kernel.accumulate sum) = 1 := by
  have zero : effect "0" = 1 := rfl
  have outer : effect "d_outer" = 1 := rfl
  unfold accumulate
  dsimp only
  split
  · rw [effectAll_append, effectAll_append, effectAll_ite]
    simp only [effectAll, Stmt.effect, effect_headBlocks, effectAll_accumulateStep kernel scales outer,
      Text.toString_self, effect_append, effect_word]
    split
    · simp (disch := rfl) only [Text.effect_literal]
      cbv
    · rfl
  · simp only [effectAll, Stmt.effect, effect_headBlocks, effect_tiles, effectAll_accumulateStep kernel scales zero,
      inBraces_one, mul_one]

/-! ### Probabilities -/

theorem effectAll_reduceRow {name operation : String} (plain : effect name = 1) (applied : effect operation = 1) :
    effectAll (reduceRow name operation) = 1 := by
  simp only [reduceRow, effectAll, Stmt.effect, Text.toString_self, effect_append, plain, applied]
  simp (disch := rfl) only [Text.effect_literal]
  cbv

theorem effectAll_sumRow {name : String} (plain : effect name = 1) : effectAll (sumRow name) = 1 := by
  simp only [sumRow, effectAll, Stmt.effect, Text.toString_self, effect_append, plain]
  simp (disch := rfl) only [Text.effect_literal]
  cbv

theorem effectAll_maskEdge : effectAll kernel.maskEdge = 1 := by
  simp only [maskEdge, effectAll, Stmt.effect, effect_tilesFrom, Text.toString_self, effect_append, effect_word,
    effect_traversalIndex, effect_traversalName, effect_registerName]
  simp (disch := rfl) only [Text.effect_literal]
  cbv

theorem effectAll_onlineSoftmax : effectAll kernel.onlineSoftmax = 1 := by
  have maximum : effect "m_new" = 1 := rfl
  have operation : effect "max" = 1 := rfl
  have total : effect "l_new" = 1 := rfl
  simp only [onlineSoftmax, List.cons_append, List.nil_append, effectAll, effectAll_append, Stmt.effect,
    effectAll_reduceRow maximum operation, effectAll_sumRow total, effect_traversalTiles, effect_tiles,
    Text.toString_self, effect_append, effect_forwardScale, effect_registerName]
  simp (disch := rfl) only [Text.effect_literal]
  cbv

theorem effectAll_probabilities {term : String} (plain : effect term = 1) :
    effectAll (kernel.probabilities term) = 1 := by
  simp only [probabilities, effectAll, Stmt.effect, effect_traversalTiles, effect_tiles, Text.toString_self,
    effect_append, effect_forwardScale, effect_registerName, plain]
  simp (disch := rfl) only [Text.effect_literal]
  cbv

theorem effectAll_scoreDerivatives {term : String} (plain : effect term = 1) :
    effectAll (kernel.scoreDerivatives term) = 1 := by
  simp only [scoreDerivatives, effectAll, Stmt.effect, effect_traversalTiles, effect_tiles, Text.toString_self,
    effect_append, effect_backwardScale, effect_registerName, plain]
  simp (disch := rfl) only [Text.effect_literal]
  cbv

theorem effectAll_columnTerms (operand : Operand) : effectAll (kernel.columnTerms operand) = 1 := by
  unfold columnTerms
  dsimp only
  split
  all_goals
    simp only [effectAll, effectAll_append, effectAll_fenced, Stmt.effect, effect_traversalTiles, Text.toString_self,
      effect_append, effect_word, effect_memoryName, Operand.effect_name]
    simp (disch := rfl) only [Text.effect_literal]
    cbv

theorem effectAll_storeScoreDerivatives : effectAll kernel.storeScoreDerivatives = 1 := by
  simp only [storeScoreDerivatives, effectAll, Stmt.effect, effect_traversalTiles, Text.toString_self, effect_append,
    effect_threadOffset, effect_memoryName]
  simp (disch := rfl) only [Text.effect_literal]
  cbv

/-! ### Row terms -/

theorem effectAll_rowTermTiles (whole : UInt16) : effectAll (kernel.rowTermTiles whole) = 1 := by
  unfold rowTermTiles
  dsimp only
  split
  all_goals
    simp only [tileLoad, List.cons_append, List.nil_append, effectAll, Stmt.effect, effect_pointer, effect_tileLoop,
      Text.toString_self, effect_append, effect_clampedOffset, effect_stride, effect_transposedName,
      effect_registerName, effect_loadName, Operand.effect_name]
    simp (disch := rfl) only [Text.effect_literal]
    cbv

theorem effectAll_edgeCopy (event : Nat) (operand : Operand) (whole : UInt16) :
    effectAll (kernel.edgeCopy event operand whole) = 1 := by
  simp only [edgeCopy, effectAll, Stmt.effect, effect_pointer, Text.toString_self, effect_append, effect_numeral,
    effect_word, effect_groupOffset, effect_memoryName, effect_stride, effect_transposedName, Operand.effect_name]
  simp (disch := rfl) only [Text.effect_literal]
  cbv

theorem effectAll_edgeTile (operand : Operand) : effectAll (kernel.edgeTile operand) = 1 := by
  simp only [edgeTile, tileLoad, List.cons_append, List.nil_append, effectAll, Stmt.effect, effect_pointer,
    Text.toString_self, effect_append, effect_numeral, effect_word, effect_memoryName, effect_registerName,
    effect_loadName, effect_transposedName, Operand.effect_name]
  simp (disch := rfl) only [Text.effect_literal]
  cbv

theorem effectAll_rowTermEdge (whole : UInt16) : effectAll (kernel.rowTermEdge whole) = 1 := by
  simp only [rowTermEdge, List.cons_append, List.nil_append, effectAll, effectAll_append, effectAll_fenced,
    Stmt.effect, effectAll_edgeCopy, effectAll_edgeTile, Text.toString_self, effect_append, effect_word,
    effect_groupOffset]
  simp (disch := rfl) only [Text.effect_literal]
  cbv

theorem effectAll_rowTerm : effectAll kernel.rowTerm = 1 := by
  simp only [rowTerm, List.flatten_cons, List.flatten_nil, List.cons_append, List.nil_append, List.append_nil,
    effectAll, effectAll_append, effectAll_ite, Stmt.effect, effectAll_rowTermTiles, effectAll_rowTermEdge,
    Text.toString_self, effect_append, effect_backwardScale, inBraces_one, mul_one, ite_self]
  simp (disch := rfl) only [Text.effect_literal]
  cbv

/-! ### The whole text -/

theorem effectAll_constantLines : effectAll kernel.constantLines = 1 := by
  unfold constantLines
  dsimp only
  split <;> split
  all_goals
    simp only [List.flatten_cons, List.flatten_nil, List.cons_append, List.nil_append, List.append_nil, effectAll,
      Stmt.effect, Text.toString_self, effect_append, effect_traversalName, effect_word]
    simp (disch := rfl) only [Text.effect_literal]
    cbv

theorem effectAll_setup : effectAll kernel.setup = 1 := by
  unfold setup
  dsimp only
  split
  · simp only [effectAll, effectAll_append, Stmt.effect, effectAll_cacheLoad, effectAll_allocate]
    simp (disch := rfl) only [Text.effect_literal]
    cbv
  split
  · split <;> split
    all_goals
      simp only [List.flatten_cons, List.flatten_nil, List.append_nil, List.nil_append, effectAll, effectAll_append,
        Stmt.effect, effectAll_cacheLoad, effectAll_allocate, effectAll_rowTerm, Text.toString_self, effect_append,
        effect_clampedOffset]
      simp (disch := rfl) only [Text.effect_literal]
      cbv
  split
  · simp only [effectAll_append, effectAll_cacheLoad, effectAll_allocate, mul_one]
  · rfl

theorem effectAll_cleanup : effectAll kernel.cleanup = 1 := by
  unfold cleanup
  dsimp only
  split
  · split
    all_goals
      simp only [effectAll, effectAll_append, Stmt.effect, effectAll_cacheStore, Text.toString_self, effect_append,
        effect_threadOffset, effect_parallelName, effect_memoryName]
    · simp (disch := rfl) only [Text.effect_literal]
      cbv
    · rfl
  split
  · simp only [effectAll, effectAll_append, Stmt.effect, effectAll_cacheStore, Text.toString_self, effect_append,
      effect_threadOffset, effect_parallelName, effect_memoryName]
    simp (disch := rfl) only [Text.effect_literal]
    cbv
  split
  · simp only [effectAll_append, effectAll_cacheStore, mul_one]
  · rfl

theorem effectAll_traversalStep : effectAll kernel.traversalStep = 1 := by
  have plain (weights right result : Operand) : Accumulation.Plain { weights, right, result } := by
    constructor <;> simp
  have divided : effect "fast::divide(1, l)" = 1 := rfl
  have corrected : effect "correction" = 1 := rfl
  have output : Accumulation.Plain
      { weights := .p, right := .v, result := .o, everyScale := some "correction",
        lastScale := some "fast::divide(1, l)" } := by
    constructor <;> simp [divided, corrected]
  have row : effect "L_term" = 1 := rfl
  have rowTerm : effect "D_term" = 1 := rfl
  have columns : effect "L_terms[c / 8]" = 1 := rfl
  have columnsTerm : effect "D_terms[c / 8]" = 1 := rfl
  unfold traversalStep
  dsimp only
  split
  · simp only [List.flatten_cons, List.flatten_nil, List.append_nil, effectAll, effectAll_append, Stmt.effect,
      effectAll_outerProduct, effectAll_maskEdge, effectAll_onlineSoftmax, effectAll_accumulate kernel output]
    simp (disch := rfl) only [Text.effect_literal]
    cbv
  split
  · simp only [List.flatten_cons, List.flatten_nil, List.append_nil, effectAll, effectAll_append, Stmt.effect,
      effectAll_outerProduct, effectAll_probabilities kernel row, effectAll_scoreDerivatives kernel rowTerm,
      effectAll_accumulate kernel (plain _ _ _)]
    simp (disch := rfl) only [Text.effect_literal]
    cbv
  split
  · split
    all_goals
      simp only [List.flatten_cons, List.flatten_nil, List.append_nil, effectAll, effectAll_append, Stmt.effect,
        effectAll_outerProduct, effectAll_columnTerms, effectAll_probabilities kernel columns,
        effectAll_scoreDerivatives kernel columnsTerm, effectAll_accumulate kernel (plain _ _ _),
        effectAll_storeScoreDerivatives]
      simp (disch := rfl) only [Text.effect_literal]
      cbv
  · rfl

theorem effectAll_traversal : effectAll kernel.traversal = 1 := by
  unfold traversal
  dsimp only
  split
  · simp only [effectAll, Stmt.effect, effectAll_traversalStep, Text.toString_self, effect_append,
      effect_traversalIndex, effect_traversalName, effect_word]
    simp (disch := rfl) only [Text.effect_literal]
    cbv
  · rfl

theorem effectAll_functionBody : effectAll kernel.functionBody = 1 := by
  simp only [functionBody, List.cons_append, List.nil_append, effectAll, effectAll_append, Stmt.effect,
    effectAll_setup, effectAll_traversal, effectAll_cleanup, Text.toString_self, effect_append, effect_groupOffset,
    effect_parallelName, effect_word]
  simp (disch := rfl) only [Text.effect_literal]
  cbv

theorem effect_argument : ∀ argument ∈ kernel.arguments, effect argument = 1 := by
  unfold arguments
  rw [List.forall_mem_append]
  constructor
  · rw [List.forall_mem_map]
    intro operand _
    simp only [Text.toString_self, effect_append, effect_memoryName, Operand.effect_name, effect_numeral]
    simp (disch := rfl) only [Text.effect_literal]
    cbv
  · simp only [List.forall_mem_cons]
    refine ⟨?_, ?_, ?_, ?_, by simp⟩
    all_goals
      simp (disch := rfl) only [Text.effect_literal]
      cbv

/-- The statements of a kernel leave no bracket open. -/
theorem effectAll_statements : effectAll kernel.statements = 1 := by
  have namespaces : effect "using namespace metal;" = 1 := rfl
  have name : effect entryPoint = 1 := rfl
  simp only [statements, List.cons_append, List.nil_append, effectAll, effectAll_append, Stmt.effect, namespaces,
    effectAll_constantLines, Shader.effectAll_kernelHead name kernel.effect_argument, effectAll_functionBody,
    inBraces_one, one_mul]

/-- The text of a kernel leaves no bracket open. -/
theorem balanced_source : Text.Balanced kernel.source :=
  Shader.balanced_preamble.append (Shader.balanced_render kernel.effectAll_statements)

end Kernel

end KernelForge.Attention

namespace KernelForge

/-- Braces and parentheses of generated texts nest: every beginning of the text of a kernel has at least as many opening
    as closing ones, and the whole text has equally many. It holds of every kernel, those that come from a descriptor
    among them. -/
theorem source_nests :
    (∀ kernel : Gemm.Kernel, Text.Nests '{' '}' kernel.source ∧ Text.Nests '(' ')' kernel.source) ∧
      ∀ kernel : Attention.Kernel, Text.Nests '{' '}' kernel.source ∧ Text.Nests '(' ')' kernel.source :=
  ⟨fun kernel => kernel.balanced_source.nests, fun kernel => kernel.balanced_source.nests⟩

end KernelForge
