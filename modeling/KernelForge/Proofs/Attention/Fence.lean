import KernelForge.Proofs.Attention.Bracket
import KernelForge.Proofs.Attention.Emission
import KernelForge.Proofs.Gemm.Fence

/-!
Copies of an attention kernel. What is kept in registers, the streamed operands, the slices of row terms and the last
columns of the row term are copied to threadgroup memory behind a barrier; results leave for device memory.
-/

namespace KernelForge.Attention

open Text (Within within_append effect effect_append effect_word)
open Shader (Stmt Stmt.effect Stmt.flat Stmt.Dotless Stmt.Quiet QuietAll quietAll_append quietAll_ite initial
  initial_append initial_literal Fences copies copies_skip flatAll effectAll dotless_word)

/-! ### First characters -/

theorem Operand.initial_name_or (operand : Operand) (later : Option Char) :
    (initial operand.name).or later = initial operand.name := by
  cases operand <;> rfl

theorem Operand.initial_name_ne (operand : Operand) :
    initial operand.name ≠ some 'i' ∧ initial operand.name ≠ some '\t' := by
  cases operand <;> decide

theorem initial_groupOffset : initial groupOffset = some 'p' :=
  initial_literal rfl

theorem initial_threadOffset : initial threadOffset = some '(' :=
  initial_literal rfl

theorem initial_boolean_ne (value : Bool) : initial (Shader.boolean value) ≠ some 's' := by
  cases value <;> decide

namespace Kernel

variable (kernel : Kernel)

theorem initial_traversalIndex : initial kernel.traversalIndex ≠ some 's' := by
  unfold traversalIndex
  split <;> decide

theorem initial_traversalIndex_or (later : Option Char) :
    (initial kernel.traversalIndex).or later = initial kernel.traversalIndex := by
  unfold traversalIndex
  split <;> rfl

theorem quiet_tiles (operand : Operand) (count : UInt16) : (kernel.tiles operand count).Quiet := by
  simp only [tiles, Stmt.Quiet, Text.toString_self, initial_append]
  simp (disch := rfl) only [initial_literal]
  simp

theorem quiet_pointer (operand : Operand) (target matrix stride offset trans : String) :
    (kernel.pointer operand target matrix stride offset trans).Quiet ↔
      (initial target).or (some ' ') ≠ some 'i' ∧ (initial target).or (some ' ') ≠ some '\t' := by
  have equals : initial " = simdgroup_matrix_storage<" = some ' ' := initial_literal rfl
  simp only [pointer, Stmt.Quiet, Text.toString_self, initial_append, equals, Option.or_assoc, Option.some_or]

theorem quiet_blockPointer (operand : Operand) : (kernel.blockPointer operand).Quiet := by
  simp only [blockPointer, Stmt.Quiet, Text.toString_self, initial_append]
  simp (disch := rfl) only [initial_literal]
  simp

theorem quiet_tilesFrom (index start stop : String) (body : List Stmt) :
    (tilesFrom index start stop body).Quiet ↔ QuietAll body := by
  rw [tilesFrom, Stmt.Quiet]

theorem quiet_traversalTiles (body : List Stmt) : (kernel.traversalTiles body).Quiet ↔ QuietAll body := by
  rw [traversalTiles, Shader.tileLoop, Stmt.Quiet]

/-! ### Operands that are kept -/

theorem quiet_cacheDirectly (operand : Operand) (store : Bool) : QuietAll (kernel.cacheDirectly operand store) := by
  simp only [cacheDirectly, Shader.tileLoop, QuietAll, Stmt.Quiet, quiet_pointer, Text.toString_self, initial_append,
    operand.initial_name_or]
  simp (disch := rfl) only [initial_literal]
  simpa using operand.initial_name_ne

theorem quiet_cacheCopy (operand : Operand) (store : Bool) : QuietAll (kernel.cacheCopy operand store) := by
  cases store
  all_goals
    simp only [cacheCopy, QuietAll, Stmt.Quiet, quiet_pointer, Text.toString_self, initial_append, Bool.false_eq_true,
      ↓reduceIte]
    simp (disch := rfl) only [initial_literal]
    simp

theorem alpha_name (operand : Operand) : Within Char.isAlpha operand.name := by
  cases operand <;> decide

theorem dotless_name (operand : Operand) : Within (· ≠ '.') operand.name :=
  (alpha_name operand).ne rfl

theorem dotless_groupOffset : Within (· ≠ '.') groupOffset := by
  decide

theorem dotless_parallelName : Within (· ≠ '.') kernel.parallelName := by
  unfold parallelName
  split <;> decide

theorem dotless_traversalName : Within (· ≠ '.') kernel.traversalName := by
  unfold traversalName
  split <;> decide

theorem dotless_traversalIndex : Within (· ≠ '.') kernel.traversalIndex := by
  unfold traversalIndex
  split <;> decide

theorem dotless_stride (operand : Operand) : Within (· ≠ '.') (kernel.stride operand) := by
  unfold stride sequenceName
  split
  · split <;> decide
  · exact dotless_word _

theorem dotless_transposedName (operand : Operand) : Within (· ≠ '.') (kernel.transposedName operand) := by
  unfold transposedName Shader.boolean
  split <;> decide

theorem dotless_memoryName (operand : Operand) : Within (· ≠ '.') (kernel.memoryName operand) :=
  Precision.dotless_scalarName _

theorem copies_cacheCopy (operand : Operand) (store : Bool) :
    copies (flatAll (kernel.cacheCopy operand store)) =
      [⟨"event", operand.name ++ (if store then "_device" else "_threadgroup")⟩] := by
  have call : "event.async_copy(" = "event" ++ ".async_copy(" := by decide
  have device : "_device, " = "_device" ++ ", " := by decide
  have threadgroup : "_threadgroup, " = "_threadgroup" ++ ", " := by decide
  have name : Within (· ≠ ',') operand.name := (alpha_name operand).ne rfl
  unfold cacheCopy
  dsimp only
  refine (Shader.copies_drop 10 ?_).trans ?_
  · simp only [List.take_succ_cons, List.take_zero, pointer, List.forall_mem_cons, Stmt.Dotless, Text.toString_self,
      within_append, dotless_name, dotless_groupOffset, dotless_parallelName, dotless_stride, dotless_transposedName,
      dotless_memoryName, dotless_word]
    simp (disch := rfl) only [Text.within_literal]
    simp
  · simp only [List.drop_succ_cons, List.drop_zero, Text.toString_self]
    rw [Shader.copies_issue "event" (operand.name ++ (if store then "_device" else "_threadgroup"))]
    · rw [copies_skip rfl rfl]
      rfl
    · cases store
      · exact ⟨_, by simp only [Bool.false_eq_true, ↓reduceIte, call, threadgroup, String.append_assoc]; rfl⟩
      · exact ⟨_, by simp only [↓reduceIte, call, device, String.append_assoc]; rfl⟩
    · decide
    · decide
    · have ending : ',' ∉ (if store then "_device" else "_threadgroup").toList := by cases store <;> decide
      rw [String.toList_append, List.mem_append, not_or]
      exact ⟨name.not_mem rfl, ending⟩

theorem flat_pointer (operand : Operand) (target matrix stride offset trans : String) :
    (kernel.pointer operand ("auto " ++ target) matrix stride offset trans).flat =
      ["auto " ++ target ++ " = simdgroup_matrix_storage<" ++ kernel.memoryName operand ++ ">::apply_offset(" ++
        matrix ++ ", " ++ (stride ++ (", " ++ (offset ++ (", " ++ (trans ++ ");")))))] := by
  have keyword : initial "auto " = some 'a' := rfl
  simp only [pointer, Stmt.flat, Text.toString_self, String.append_assoc]
  rw [Shader.bare_front keyword (by decide)]

/-- The pointer to device memory of a copy is one into the buffer of the operand. -/
theorem toDevice_cacheCopy {arguments : List String} (operand : Operand)
    (bound : Shader.IsBuffer arguments operand.name) :
    Shader.ToDevice arguments (flatAll (kernel.cacheCopy operand true)) ⟨"event", operand.name ++ "_device"⟩ := by
  refine ⟨kernel.memory operand, operand.name, kernel.stride operand ++ (", " ++ ((operand.name ++ "_offset") ++
    (", " ++ (kernel.transposedName operand ++ ");")))), bound, ?_⟩
  have pointer := kernel.flat_pointer operand (operand.name ++ "_device") operand.name (kernel.stride operand)
    (operand.name ++ "_offset") (kernel.transposedName operand)
  simp only [cacheCopy, flatAll, Text.toString_self, String.append_assoc, pointer, List.mem_append]
  exact .inr (.inl (List.mem_singleton.mpr rfl))

theorem fences_cacheStaged {arguments : List String} (operand : Operand) (store : Bool)
    (bound : store = true → Shader.IsBuffer arguments operand.name) (offset : String) :
    Fences arguments (kernel.cacheStaged operand store offset) := by
  have copy := kernel.copies_cacheCopy operand store
  unfold cacheStaged
  dsimp only
  split
  · rename_i stores
    rw [stores, if_pos rfl] at copy
    refine .append (QuietAll.fences ?_) (.cons (QuietAll.fences ⟨trivial, trivial⟩)
      (Shader.fences_outward (kernel.effectAll_cacheCopy operand true) (kernel.quiet_cacheCopy operand true) _ copy
        (kernel.toDevice_cacheCopy operand (bound stores))))
    simp only [quietAll_append, quietAll_ite, Shader.tileLoop, QuietAll, Stmt.Quiet, quiet_blockPointer, quiet_pointer,
      Text.toString_self, initial_append, operand.initial_name_or]
    simp (disch := rfl) only [initial_literal]
    simpa using operand.initial_name_ne
  · rename_i loads
    rw [Bool.not_eq_true] at loads
    rw [loads, if_neg Bool.false_ne_true] at copy
    refine .append (Shader.fences_fenced (kernel.effectAll_cacheCopy operand false)
      (kernel.quiet_cacheCopy operand false) (Shader.waits_one _ copy rfl) ?_ ?_) (QuietAll.fences ?_)
    · simp only [QuietAll, Stmt.Quiet, quiet_blockPointer, quiet_pointer, Text.toString_self, initial_append,
        operand.initial_name_or]
      simp (disch := rfl) only [initial_literal]
      simpa using operand.initial_name_ne
    · simp only [effectAll, Stmt.effect, effect_pointer, effect_blockPointer, Text.toString_self, effect_append,
        effect_word, effect_transposedName, Operand.effect_name]
      simp (disch := rfl) only [Text.effect_literal]
      cbv
    · simp only [quietAll_ite, Shader.tileLoop, QuietAll, Stmt.Quiet, Text.toString_self, initial_append,
        operand.initial_name_or]
      simp (disch := rfl) only [initial_literal]
      simpa using operand.initial_name_ne

theorem fences_headBlocks {arguments : List String} {body : List Stmt} (inner : Fences arguments body)
    (unroll : Shader.Unroll) (stop : UInt16) : Fences arguments [kernel.headBlocks unroll stop body] :=
  Fences.loop inner unroll _

theorem fences_cache {arguments : List String} (operand : Operand) (store : Bool)
    (bound : store = true → Shader.IsBuffer arguments operand.name) :
    Fences arguments (kernel.cache operand store) := by
  unfold cache
  dsimp only
  refine .cons (QuietAll.fences ⟨trivial, trivial⟩) (.cons (kernel.fences_headBlocks (.condElse ?_
    (QuietAll.fences ?_) (kernel.fences_cacheStaged operand store bound _)) _ _)
      (QuietAll.fences ⟨trivial, trivial⟩))
  · split
    · simp only [Text.toString_self, initial_append]
      simp (disch := rfl) only [initial_literal]
      simp
    · exact initial_boolean_ne _
  · simp only [QuietAll, Stmt.Quiet, quiet_cacheDirectly, Text.toString_self, initial_append, initial_threadOffset]
    simp

theorem fences_cacheLoad (arguments : List String) (operand : Operand) :
    Fences arguments (kernel.cacheLoad operand) := by
  unfold cacheLoad
  split
  · exact .cons (QuietAll.fences ⟨kernel.quiet_tiles operand _, trivial⟩)
      (kernel.fences_cache operand false fun stores => absurd stores Bool.false_ne_true)
  · exact QuietAll.fences trivial

theorem fences_cacheStore {arguments : List String} {operand : Operand}
    (bound : kernel.isCached operand = true → Shader.IsBuffer arguments operand.name) :
    Fences arguments (kernel.cacheStore operand) := by
  unfold cacheStore
  split
  · rename_i cached
    exact kernel.fences_cache operand true fun _ => bound cached
  · exact QuietAll.fences trivial

theorem quiet_allocate (operand : Operand) : QuietAll (kernel.allocate operand) := by
  unfold allocate
  split
  · simp only [Shader.tileLoop, QuietAll, Stmt.Quiet, quiet_tiles, Text.toString_self, initial_append,
      operand.initial_name_or]
    simpa using operand.initial_name_ne
  · trivial

/-! ### Products along the head dimension -/

theorem fences_loadLeft (arguments : List String) (operand : Operand) (space : Shader.AddressSpace) :
    Fences arguments (kernel.loadLeft operand space) := by
  unfold loadLeft
  dsimp only
  refine .cons (QuietAll.fences ⟨kernel.quiet_tiles operand _, trivial⟩) ?_
  cases space with
  | device =>
    apply QuietAll.fences
    simp only [Shader.tileLoop, QuietAll, Stmt.Quiet, quiet_pointer, Text.toString_self, initial_append,
      operand.initial_name_or]
    simp (disch := rfl) only [initial_literal]
    simpa using operand.initial_name_ne
  | threadgroup =>
    refine .append (Shader.fences_fenced ?_ ?_ (Shader.waits_one "dst" ?_ rfl) ?_ ?_) (QuietAll.fences ?_)
    · simp only [effectAll, Stmt.effect, effect_pointer, Text.toString_self, effect_append, effect_word,
        effect_groupOffset, effect_parallelName, effect_stride, effect_transposedName, effect_memoryName,
        Operand.effect_name]
      simp (disch := rfl) only [Text.effect_literal]
      cbv
    · simp only [QuietAll, Stmt.Quiet, quiet_pointer, Text.toString_self, initial_append]
      simp (disch := rfl) only [initial_literal]
      simp
    · refine (Shader.copies_drop 10 ?_).trans ?_
      · simp only [List.take_succ_cons, List.take_zero, pointer, List.forall_mem_cons, Stmt.Dotless,
          Text.toString_self, within_append, dotless_name, dotless_groupOffset, dotless_parallelName, dotless_stride,
          dotless_transposedName, dotless_memoryName, dotless_word]
        simp (disch := rfl) only [Text.within_literal]
        simp
      · simp only [List.drop_succ_cons, List.drop_zero, Text.toString_self, String.append_assoc]
        rw [Shader.copies_cons "event.async_copy(dst, " "event" "dst" rfl (by decide) (by decide) (by decide),
          copies_skip rfl rfl]
        rfl
    · simp only [QuietAll, Stmt.Quiet, quiet_blockPointer, quiet_pointer, Text.toString_self, initial_append,
        operand.initial_name_or]
      simp (disch := rfl) only [initial_literal]
      simpa using operand.initial_name_ne
    · simp only [effectAll, Stmt.effect, effect_pointer, effect_blockPointer, Text.toString_self, effect_append,
        effect_word, effect_transposedName, Operand.effect_name]
      simp (disch := rfl) only [Text.effect_literal]
      cbv
    · simp only [Shader.tileLoop, QuietAll, Stmt.Quiet, Text.toString_self, initial_append, operand.initial_name_or]
      simpa using operand.initial_name_ne

theorem copies_rightCopy (operand : Operand) : copies (flatAll (kernel.rightCopy operand)) = [⟨"event", "dst"⟩] := by
  unfold rightCopy
  dsimp only
  refine (Shader.copies_drop 11 ?_).trans ?_
  · simp only [List.take_succ_cons, List.take_zero, pointer, List.forall_mem_cons, Stmt.Dotless, Text.toString_self,
      within_append, dotless_name, dotless_traversalName, dotless_traversalIndex, dotless_stride,
      dotless_transposedName, dotless_memoryName, dotless_word]
    simp (disch := rfl) only [Text.within_literal]
    simp
  · simp only [List.drop_succ_cons, List.drop_zero, Text.toString_self, String.append_assoc]
    rw [Shader.copies_cons "event.async_copy(dst, " "event" "dst" rfl (by decide) (by decide) (by decide),
      copies_skip rfl rfl]
    rfl

theorem fences_stageRight (arguments : List String) (operand : Operand) {trans : String} (plain : effect trans = 1) :
    Fences arguments (kernel.stageRight operand trans) := by
  refine Shader.fences_fenced (kernel.effectAll_rightCopy operand) ?_
    (Shader.waits_one "dst" (kernel.copies_rightCopy operand) rfl) ?_ ?_
  · simp only [rightCopy, QuietAll, Stmt.Quiet, quiet_pointer, Text.toString_self, initial_append]
    simp (disch := rfl) only [initial_literal]
    simp
  · simp only [QuietAll, quiet_blockPointer, quiet_pointer, Text.toString_self, initial_append,
      operand.initial_name_or]
    simpa using operand.initial_name_ne
  · simp only [effectAll, effect_pointer, effect_blockPointer, Text.toString_self, effect_append, effect_word,
      Operand.effect_name, plain]
    simp (disch := rfl) only [Text.effect_literal]
    cbv

theorem fences_loadRight (arguments : List String) (operand : Operand) (space : Shader.AddressSpace) :
    Fences arguments (kernel.loadRight operand space) := by
  cases space with
  | device =>
    apply QuietAll.fences
    simp only [loadRight, QuietAll, Stmt.Quiet, quiet_pointer, Text.toString_self, initial_append]
    simp (disch := rfl) only [initial_literal]
    simp
  | threadgroup => exact kernel.fences_stageRight arguments operand (kernel.effect_untransposedName operand)

theorem quiet_outerHead (step : OuterStep) (start stop : UInt16) : (kernel.outerHead step start stop).Quiet := by
  simp only [outerHead, quiet_tilesFrom, QuietAll, Stmt.Quiet, Text.toString_self, initial_append,
    Operand.initial_name_or]
  simp (disch := rfl) only [initial_literal]
  simpa using And.intro step.right.initial_name_ne step.result.initial_name_ne

theorem quiet_outerTraversal (step : OuterStep) (start stop : String) :
    (kernel.outerTraversal step start stop).Quiet := by
  simp only [outerTraversal, quiet_tilesFrom, quietAll_ite, QuietAll, Stmt.Quiet, quiet_outerHead, Text.toString_self,
    initial_append]
  simp (disch := rfl) only [initial_literal]
  simp

theorem fences_outerStep (arguments : List String) (step : OuterStep) :
    Fences arguments (kernel.outerStep step) := by
  unfold outerStep
  dsimp only
  refine .append (.append ?_ (kernel.fences_loadRight arguments step.right step.rightSpace)) (QuietAll.fences ?_)
  · split
    · exact QuietAll.fences trivial
    · exact kernel.fences_loadLeft arguments step.left step.leftSpace
  · simp only [quietAll_ite, QuietAll, Stmt.Quiet, quiet_outerTraversal, Text.toString_self, initial_append,
      initial_traversalIndex_or]
    simpa using fun _ => kernel.initial_traversalIndex

theorem fences_gatedStep (arguments : List String) (step : OuterStep) :
    Fences arguments (kernel.gatedStep step) := by
  unfold gatedStep
  dsimp only
  split
  · exact kernel.fences_outerStep arguments _
  · refine .condElse ?_ (kernel.fences_outerStep arguments _) (kernel.fences_outerStep arguments _)
    split
    · simp only [Text.toString_self, initial_append, initial_traversalIndex_or]
      exact kernel.initial_traversalIndex
    · simp only [Text.toString_self, initial_append]
      simp (disch := rfl) only [initial_literal]
      simp

theorem fences_outerProduct (arguments : List String) (left right result : Operand) :
    Fences arguments (kernel.outerProduct left right result) := by
  unfold outerProduct
  dsimp only
  split
  · refine .append (.append (.cons (QuietAll.fences ⟨kernel.quiet_tiles result _, trivial⟩)
      (kernel.fences_headBlocks (kernel.fences_gatedStep arguments _) _ _)) ?_) (QuietAll.fences ⟨trivial, trivial⟩)
    split
    · refine .scope (.cons (QuietAll.fences ?_) (kernel.fences_outerStep arguments _))
      simp only [QuietAll, Stmt.Quiet, Text.toString_self, initial_append]
      simp (disch := rfl) only [initial_literal]
      simp
    · exact QuietAll.fences trivial
  · refine .cons (QuietAll.fences ⟨kernel.quiet_tiles result _, trivial⟩) (.cons (QuietAll.fences ?_)
      (.cons (kernel.fences_headBlocks (kernel.fences_gatedStep arguments _) _ _)
        (QuietAll.fences ⟨trivial, trivial⟩)))
    simp only [Shader.tileLoop, QuietAll, Stmt.Quiet, Text.toString_self, initial_append, Operand.initial_name_or]
    simpa using result.initial_name_ne

/-! ### Sums over the traversal -/

theorem quiet_accumulateHead (sum : Accumulation) (offset : String) (start stop : UInt16) :
    (kernel.accumulateHead sum offset start stop).Quiet := by
  simp only [accumulateHead, quiet_tilesFrom, QuietAll, Stmt.Quiet, Text.toString_self, initial_append,
    Operand.initial_name_or]
  simp (disch := rfl) only [initial_literal]
  simpa using And.intro sum.right.initial_name_ne sum.result.initial_name_ne

theorem quiet_accumulateTraversal (sum : Accumulation) (offset : String) (extent : Option UInt16)
    (start stop : String) : (kernel.accumulateTraversal sum offset extent start stop).Quiet := by
  cases extent with
  | some extent => simp only [accumulateTraversal, quiet_tilesFrom, QuietAll, quiet_accumulateHead, and_true]
  | none =>
    simp only [accumulateTraversal, quiet_tilesFrom, quietAll_ite, QuietAll, Stmt.Quiet, quiet_accumulateHead,
      Text.toString_self, initial_append]
    simp (disch := rfl) only [initial_literal]
    simp

theorem fences_accumulateStep {arguments : List String} (sum : Accumulation)
    (bound : kernel.isCached sum.result = false → Shader.IsBuffer arguments sum.result.name) {offset : String}
    (extent : Option UInt16) : Fences arguments (kernel.accumulateStep sum offset extent) := by
  have scaled (factor : String) : QuietAll [Shader.tileLoop "d" (extent.getD kernel.descriptor.block.head)
      [.line s!"*({sum.result.name}_sram[({offset} + d) / 8].thread_elements()) *= {factor};"]] := by
    simp only [Shader.tileLoop, QuietAll, Stmt.Quiet, Text.toString_self, initial_append]
    simp (disch := rfl) only [initial_literal]
    simp
  have every : QuietAll ((sum.everyScale.map fun factor =>
      [Shader.tileLoop "d" (extent.getD kernel.descriptor.block.head)
        [.line s!"*({sum.result.name}_sram[({offset} + d) / 8].thread_elements()) *= {factor};"]]).getD []) := by
    cases sum.everyScale with
    | none => trivial
    | some factor => exact scaled factor
  unfold accumulateStep
  dsimp only
  refine .append (.append (.append (.append ?_ (kernel.fences_stageRight arguments sum.right
    (kernel.effect_transposedName sum.right))) (QuietAll.fences ?_)) (QuietAll.fences ?_)) ?_
  · split
    · split
      · refine .cond ?_ every.fences
        simp only [Text.toString_self, initial_append, initial_traversalIndex_or]
        exact kernel.initial_traversalIndex
      · exact QuietAll.fences trivial
    · rename_i streamed
      rw [Bool.not_eq_true] at streamed
      refine .condElse ?_ (QuietAll.fences ?_) (.append (kernel.fences_cacheStaged sum.result false
        (fun stores => absurd stores Bool.false_ne_true) offset) every.fences)
      · simp only [Text.toString_self, initial_append, initial_traversalIndex_or]
        exact kernel.initial_traversalIndex
      · simp only [Shader.tileLoop, QuietAll, Stmt.Quiet, Text.toString_self, initial_append,
          Operand.initial_name_or]
        simpa using sum.result.initial_name_ne
  · simp only [QuietAll, Stmt.Quiet, quiet_accumulateTraversal, Text.toString_self, initial_append,
      initial_traversalIndex_or]
    simpa using kernel.initial_traversalIndex
  · cases sum.lastScale with
    | none => trivial
    | some factor =>
      refine ⟨⟨?_, scaled factor⟩, trivial⟩
      simp only [Text.toString_self, initial_append, initial_traversalIndex_or]
      exact kernel.initial_traversalIndex
  · split
    · exact QuietAll.fences trivial
    · rename_i streamed
      rw [Bool.not_eq_true] at streamed
      exact kernel.fences_cacheStaged sum.result true (fun _ => bound streamed) offset

theorem fences_accumulate {arguments : List String} (sum : Accumulation)
    (bound : kernel.isCached sum.result = false → Shader.IsBuffer arguments sum.result.name) :
    Fences arguments (kernel.accumulate sum) := by
  unfold accumulate
  dsimp only
  split
  · refine .append (.append (kernel.fences_headBlocks (kernel.fences_accumulateStep sum bound _) _ _) ?_)
      (QuietAll.fences ⟨trivial, trivial⟩)
    split
    · refine .scope (.cons (QuietAll.fences ?_) (kernel.fences_accumulateStep sum bound _))
      simp only [QuietAll, Stmt.Quiet, Text.toString_self, initial_append]
      simp (disch := rfl) only [initial_literal]
      simp
    · exact QuietAll.fences trivial
  · exact .cons (kernel.fences_headBlocks (.cons (QuietAll.fences ⟨kernel.quiet_tiles sum.result _, trivial⟩)
      (kernel.fences_accumulateStep sum bound _)) _ _) (QuietAll.fences ⟨trivial, trivial⟩)

/-! ### Probabilities -/

theorem quiet_maskEdge : QuietAll kernel.maskEdge := by
  simp only [maskEdge, quiet_tilesFrom, QuietAll, Stmt.Quiet, Text.toString_self, initial_append]
  simp (disch := rfl) only [initial_literal]
  simp

theorem quiet_onlineSoftmax : QuietAll kernel.onlineSoftmax := by
  simp only [onlineSoftmax, reduceRow, sumRow, List.cons_append, List.nil_append, QuietAll, Stmt.Quiet,
    quiet_traversalTiles, quiet_tiles, Text.toString_self, initial_append]
  simp (disch := rfl) only [initial_literal]
  simp

theorem quiet_probabilities (term : String) : QuietAll (kernel.probabilities term) := by
  simp only [probabilities, QuietAll, Stmt.Quiet, quiet_traversalTiles, quiet_tiles, Text.toString_self,
    initial_append]
  simp (disch := rfl) only [initial_literal]
  simp

theorem quiet_scoreDerivatives (term : String) : QuietAll (kernel.scoreDerivatives term) := by
  simp only [scoreDerivatives, QuietAll, Stmt.Quiet, quiet_traversalTiles, quiet_tiles, Text.toString_self,
    initial_append]
  simp (disch := rfl) only [initial_literal]
  simp

theorem quiet_storeScoreDerivatives : QuietAll kernel.storeScoreDerivatives := by
  simp only [storeScoreDerivatives, QuietAll, Stmt.Quiet, quiet_traversalTiles, Text.toString_self, initial_append,
    initial_threadOffset]
  simp (disch := rfl) only [initial_literal]
  simp

theorem fences_columnTerms (arguments : List String) (operand : Operand) :
    Fences arguments (kernel.columnTerms operand) := by
  have either {condition : String} (other : initial condition ≠ some 's') {direct staged : List Stmt}
      (quiet : QuietAll direct) (inner : Fences arguments staged) : Fences arguments
        [if kernel.descriptor.asyncLoad then .scope staged else .condElse condition direct staged] := by
    split
    · exact .scope inner
    · exact .condElse other quiet.fences inner
  unfold columnTerms
  dsimp only
  refine .cons (QuietAll.fences ?_) (.cons (either ?_ ?_ (.append (Shader.fences_fenced ?_ ?_
    (Shader.waits_one "dst" ?_ rfl) trivial rfl) (QuietAll.fences ?_))) (QuietAll.fences ⟨trivial, trivial⟩))
  · simp only [QuietAll, Stmt.Quiet, Text.toString_self, initial_append]
    simp (disch := rfl) only [initial_literal]
    simp
  · simp only [Text.toString_self, initial_append]
    simp (disch := rfl) only [initial_literal]
    simp
  · simp only [QuietAll, Stmt.Quiet, quiet_traversalTiles, Text.toString_self, initial_append,
      operand.initial_name_or]
    simp (disch := rfl) only [initial_literal]
    simpa using operand.initial_name_ne
  · simp only [effectAll, Stmt.effect, Text.toString_self, effect_append, effect_word, effect_memoryName,
      Operand.effect_name]
    simp (disch := rfl) only [Text.effect_literal]
    cbv
  · simp only [QuietAll, Stmt.Quiet, Text.toString_self, initial_append]
    simp (disch := rfl) only [initial_literal]
    simp
  · refine (Shader.copies_drop 6 ?_).trans ?_
    · simp only [List.take_succ_cons, List.take_zero, List.forall_mem_cons, Stmt.Dotless, Text.toString_self,
        within_append, dotless_name, dotless_memoryName, dotless_word]
      simp (disch := rfl) only [Text.within_literal]
      simp
    · simp only [List.drop_succ_cons, List.drop_zero, Text.toString_self, String.append_assoc]
      rw [Shader.copies_cons "event.async_copy(dst, " "event" "dst" rfl (by decide) (by decide) (by decide),
        copies_skip rfl rfl]
      rfl
  · simp only [QuietAll, Stmt.Quiet, quiet_traversalTiles, Text.toString_self, initial_append,
      operand.initial_name_or]
    simp (disch := rfl) only [initial_literal]
    simpa using operand.initial_name_ne

/-! ### Row terms -/

theorem quiet_tileLoad (operand : Operand) (source stride origin : String) :
    QuietAll (kernel.tileLoad operand source stride origin) := by
  simp only [tileLoad, QuietAll, Stmt.Quiet, Text.toString_self, initial_append, operand.initial_name_or]
  simp (disch := rfl) only [initial_literal]
  simpa using operand.initial_name_ne

theorem quiet_rowTermTiles (whole : UInt16) : QuietAll (kernel.rowTermTiles whole) := by
  unfold rowTermTiles
  dsimp only
  split
  all_goals
    simp only [List.cons_append, List.nil_append, Shader.tileLoop, quietAll_append, QuietAll, Stmt.Quiet,
      quiet_pointer, quiet_tileLoad, Text.toString_self, initial_append]
    simp (disch := rfl) only [initial_literal]
    simp

theorem quiet_edgeCopy (event : Nat) (operand : Operand) (whole : UInt16) :
    QuietAll (kernel.edgeCopy event operand whole) := by
  simp only [edgeCopy, QuietAll, Stmt.Quiet, quiet_pointer, Text.toString_self, initial_append]
  simp (disch := rfl) only [initial_literal]
  simp

theorem quiet_edgeTile (operand : Operand) : QuietAll (kernel.edgeTile operand) := by
  simp only [edgeTile, List.cons_append, List.nil_append, QuietAll, Stmt.Quiet, quiet_pointer, quiet_tileLoad,
    Text.toString_self, initial_append, operand.initial_name_or]
  simp (disch := rfl) only [initial_literal]
  simpa using operand.initial_name_ne

theorem copies_edgeCopy (event : Nat) (operand : Operand) (whole : UInt16) :
    copies (flatAll (kernel.edgeCopy event operand whole)) = [⟨s!"events[{event}]", operand.name ++ "_dst"⟩] := by
  have call : "].async_copy(" = "]" ++ ".async_copy(" := by decide
  have target : "_dst, " = "_dst" ++ ", " := by decide
  have name : Within (· ≠ ',') operand.name := (alpha_name operand).ne rfl
  have number : Within (· ≠ '.') (toString event) := (Text.within_numeral event).ne rfl
  have offset : Within (· ≠ '.') (toString (kernel.edgeOffset operand)) := (Text.within_numeral _).ne rfl
  unfold edgeCopy
  dsimp only
  refine (Shader.copies_drop 2 ?_).trans ?_
  · simp only [List.take_succ_cons, List.take_zero, pointer, List.forall_mem_cons, Stmt.Dotless, Text.toString_self,
      within_append, dotless_name, dotless_groupOffset, dotless_stride, dotless_transposedName, dotless_memoryName,
      dotless_word, offset]
    simp (disch := rfl) only [Text.within_literal]
    simp
  · simp only [List.drop_succ_cons, List.drop_zero, Text.toString_self]
    rw [Shader.copies_issue ("events[" ++ toString event ++ "]") (operand.name ++ "_dst")]
    · rfl
    · exact ⟨_, by simp only [call, target, String.append_assoc]; rfl⟩
    · have event : Within (· ≠ '.') ("events[" ++ toString event ++ "]") := by
        rw [within_append, within_append]
        exact ⟨⟨by decide, number⟩, by decide⟩
      exact event.not_mem rfl
    · simp only [initial_append]
      simp (disch := rfl) only [initial_literal]
      simp
    · rw [String.toList_append, List.mem_append, not_or]
      exact ⟨name.not_mem rfl, by decide⟩

theorem fences_rowTermEdge (arguments : List String) (whole : UInt16) :
    Fences arguments (kernel.rowTermEdge whole) := by
  unfold rowTermEdge
  dsimp only
  refine .append (.append (.append (Shader.fences_fenced ?_ ?_ (Shader.waits_two "dO_dst" "O_dst" ?_ ?_) trivial rfl)
    (kernel.quiet_edgeTile .dO).fences) (kernel.quiet_edgeTile .o).fences) (QuietAll.fences ?_)
  · simp only [List.cons_append, List.nil_append, effectAll, Shader.effectAll_append, effectAll_edgeCopy, Stmt.effect,
      Text.toString_self, effect_append, effect_word, effect_groupOffset]
    simp (disch := rfl) only [Text.effect_literal]
    cbv
  · simp only [List.cons_append, List.nil_append, QuietAll, quietAll_append, quiet_edgeCopy, Stmt.Quiet,
      Text.toString_self, initial_append]
    simp (disch := rfl) only [initial_literal]
    simp
  · have last : copies (flatAll [.line "simdgroup_event::wait(2, events);"]) = [] := copies_skip rfl rfl []
    rw [Shader.flatAll_append, Shader.flatAll_append, Shader.flatAll_append, Shader.copies_append, Shader.copies_append,
      Shader.copies_append, last, copies_edgeCopy, copies_edgeCopy, Shader.copies_of_dotless]
    · decide
    · simp only [List.forall_mem_cons, Stmt.Dotless, Text.toString_self, within_append, dotless_groupOffset,
        dotless_word]
      simp (disch := rfl) only [Text.within_literal]
      simp
  · exact List.getLast?_concat
  · simp only [QuietAll, Stmt.Quiet, initial_append]
    simp (disch := rfl) only [initial_literal]
    simp

theorem fences_rowTerm (arguments : List String) : Fences arguments kernel.rowTerm := by
  unfold rowTerm
  dsimp only
  simp only [List.flatten_cons, List.flatten_nil, List.append_nil]
  refine .append (QuietAll.fences ?_) (.append (QuietAll.fences ?_) (.append ?_ (QuietAll.fences ?_)))
  · simp only [QuietAll, Stmt.Quiet]
    simp (disch := rfl) only [initial_literal]
    simp
  · simp only [quietAll_ite, QuietAll, Stmt.Quiet, quiet_rowTermTiles, and_self, ite_self]
  · split
    · exact .scope (kernel.fences_rowTermEdge arguments _)
    · exact QuietAll.fences trivial
  · simp only [QuietAll, Stmt.Quiet, Text.toString_self, initial_append]
    simp (disch := rfl) only [initial_literal]
    simp

/-! ### The whole text -/

/-- A bound operand is declared as a buffer. -/
theorem isBuffer_operand {operand : Operand} (bound : kernel.operands.contains operand = true) :
    Shader.IsBuffer kernel.arguments operand.name := by
  refine ⟨kernel.memory operand, toString (operand.binding?.getD 0) ++ ")]]", ?_⟩
  rw [arguments, List.mem_append]
  refine .inl (List.mem_map.mpr ⟨operand, OperandSet.mem_toList.mpr bound, ?_⟩)
  simp only [Text.toString_self, String.append_assoc]
  rfl

theorem fences_setup (arguments : List String) : Fences arguments kernel.setup := by
  unfold setup
  dsimp only
  split
  · refine .append (.append (kernel.fences_cacheLoad arguments .q) (kernel.quiet_allocate .o).fences)
      (QuietAll.fences ?_)
    simp only [QuietAll, Stmt.Quiet]
    simp (disch := rfl) only [initial_literal]
    simp
  split
  · simp only [List.flatten_cons, List.flatten_nil, List.append_nil]
    refine .append ?_ (.append (kernel.fences_cacheLoad arguments .dO) (.append (kernel.quiet_allocate .dQ).fences
      (.append (QuietAll.fences ?_) (.append (QuietAll.fences ?_) (kernel.fences_rowTerm arguments)))))
    · split
      · exact kernel.fences_cacheLoad arguments .q
      · exact QuietAll.fences trivial
    · simp only [quietAll_ite, QuietAll, Stmt.Quiet, Text.toString_self, initial_append]
      simp (disch := rfl) only [initial_literal]
      simp
    · simp only [QuietAll, Stmt.Quiet]
      simp (disch := rfl) only [initial_literal]
      simp
  split
  · exact .append (.append (.append (kernel.fences_cacheLoad arguments .k) (kernel.fences_cacheLoad arguments .v))
      (kernel.quiet_allocate .dV).fences) (kernel.quiet_allocate .dK).fences
  · exact QuietAll.fences trivial

/-- Results that are kept leave for their buffers. -/
theorem fences_cleanup (kept : ∀ operand, kernel.isCached operand = true → kernel.operands.contains operand = true) :
    Fences kernel.arguments kernel.cleanup := by
  have store (operand : Operand) : Fences kernel.arguments (kernel.cacheStore operand) :=
    kernel.fences_cacheStore fun cached => kernel.isBuffer_operand (kept operand cached)
  unfold cleanup
  dsimp only
  split
  · refine .append (store .o) (QuietAll.fences ?_)
    simp only [quietAll_ite, QuietAll, Stmt.Quiet, Text.toString_self, initial_append, initial_threadOffset]
    simp (disch := rfl) only [initial_literal]
    simp
  split
  · refine .append (store .dQ) (QuietAll.fences ?_)
    simp only [QuietAll, Stmt.Quiet, Text.toString_self, initial_append, initial_threadOffset]
    simp (disch := rfl) only [initial_literal]
    simp
  split
  · exact .append (store .dV) (store .dK)
  · exact QuietAll.fences trivial

/-- Results that are not kept are stored in every step, and have a buffer whenever there are steps. -/
theorem fences_traversalStep (bound : kernel.operands = kernel.descriptor.type.operands)
    (loops : kernel.descriptor.type.hasLoop = true) : Fences kernel.arguments kernel.traversalStep := by
  have comment (text : String) : Fences kernel.arguments [.comment text] := QuietAll.fences ⟨trivial, trivial⟩
  have buffer {operand : Operand} (member : kernel.descriptor.type.operands.contains operand = true) :
      Shader.IsBuffer kernel.arguments operand.name := by
    rw [← bound] at member
    exact kernel.isBuffer_operand member
  unfold traversalStep
  dsimp only
  simp only [List.flatten_cons, List.flatten_nil, List.append_nil]
  split
  · rename_i isForward
    refine .append (comment _) (.append (kernel.fences_outerProduct _ .q .k .s) (.append kernel.quiet_maskEdge.fences
      (.append (comment _) (.append kernel.quiet_onlineSoftmax.fences (.append (comment _)
        (kernel.fences_accumulate _ fun _ => buffer ?_))))))
    simp only [KernelType.operands, isForward, if_true]
    split <;> decide
  split
  · rename_i isQuery
    refine .append (comment _) (.append (kernel.fences_outerProduct _ .q .k .s) (.append (comment _)
      (.append (kernel.quiet_probabilities _).fences (.append (comment _)
        (.append (kernel.fences_outerProduct _ .dO .v .dP) (.append (comment _)
          (.append (kernel.quiet_scoreDerivatives _).fences (.append (comment _)
            (kernel.fences_accumulate _ fun _ => buffer ?_)))))))))
    have secondary : kernel.descriptor.type.secondary = true := by
      simpa [KernelType.hasLoop, isQuery] using loops
    rw [KernelType.operands, isQuery, secondary]
    decide
  split
  · rename_i isKeyValue
    refine .append (comment _) (.append (kernel.fences_outerProduct _ .k .q .s) (.append (comment _)
      (.append (kernel.fences_columnTerms _ .l) (.append (kernel.quiet_probabilities _).fences (.append (comment _)
        (.append (kernel.fences_accumulate _ fun _ => buffer ?_) (.append (comment _)
          (.append (kernel.fences_outerProduct _ .v .dO .dP) (.append (comment _)
            (.append (kernel.fences_columnTerms _ .d) (.append (kernel.quiet_scoreDerivatives _).fences ?_)))))))))))
    · rw [KernelType.operands, isKeyValue]
      cases kernel.descriptor.type.secondary <;> decide
    · split
      · rename_i secondary
        refine .cons (comment _) (kernel.fences_accumulate _ fun _ => buffer ?_)
        rw [KernelType.operands, isKeyValue, secondary]
        decide
      · exact kernel.quiet_storeScoreDerivatives.fences
  · exact QuietAll.fences trivial

theorem fences_traversal (bound : kernel.operands = kernel.descriptor.type.operands) :
    Fences kernel.arguments kernel.traversal := by
  unfold traversal
  dsimp only
  split
  · rename_i loops
    exact .cons (QuietAll.fences ⟨trivial, trivial⟩) (.cons (.loop (kernel.fences_traversalStep bound loops) _ _)
      (QuietAll.fences ⟨trivial, trivial⟩))
  · exact QuietAll.fences trivial

/-- The function body of a kernel: every block of the first SIMD group that copies to threadgroup memory waits for its
    copies, and a barrier follows. -/
theorem fences_functionBody (bound : kernel.operands = kernel.descriptor.type.operands)
    (kept : ∀ operand, kernel.isCached operand = true → kernel.operands.contains operand = true) :
    Fences kernel.arguments kernel.functionBody := by
  refine .append (.append (.append (QuietAll.fences ?_) (kernel.fences_setup _)) (kernel.fences_traversal bound))
    (kernel.fences_cleanup kept)
  simp only [QuietAll, Stmt.Quiet, Text.toString_self, initial_append, initial_groupOffset]
  simp (disch := rfl) only [initial_literal]
  simp

end Kernel

end KernelForge.Attention

namespace KernelForge

open Shader (IsFunctionBody Fenced bare)

/-- Copies into threadgroup memory are fenced: in the function body of a kernel that is made from a descriptor, every
    block of the first SIMD group that issues one waits for its copies, and behind the block, before the block around it
    ends and before the next such block, all threads meet. -/
theorem copies_fenced :
    (∀ descriptor kernel, Gemm.Kernel.ofDescriptor descriptor = .ok kernel →
      ∃ body, IsFunctionBody kernel.source Gemm.Kernel.entryPoint kernel.arguments body ∧
        Fenced kernel.arguments (body.map bare)) ∧
    ∀ descriptor kernel, Attention.Kernel.ofDescriptor descriptor = .ok kernel →
      ∃ body, IsFunctionBody kernel.source Attention.Kernel.entryPoint kernel.arguments body ∧
        Fenced kernel.arguments (body.map bare) := by
  constructor
  · intro descriptor kernel _
    refine ⟨_, Shader.isFunctionBody_render _ _ _ kernel.effectAll_functionBody, ?_⟩
    rw [Shader.map_bare_linesAll]
    exact kernel.fences_functionBody
  · intro descriptor kernel accepted
    obtain ⟨-, -, -, -, rfl, operands, cached⟩ := Attention.made_of_ofDescriptor accepted
    refine ⟨_, Shader.isFunctionBody_render _ _ _ kernel.effectAll_functionBody, ?_⟩
    rw [Shader.map_bare_linesAll]
    refine kernel.fences_functionBody operands fun operand kept => ?_
    rw [Attention.Kernel.isCached, cached, Attention.OperandSet.contains_inter, Attention.OperandSet.contains_inter,
      ← operands, Bool.and_eq_true, Bool.and_eq_true] at kept
    exact kept.1.2

/-- A product whose steps are all staged, with two SIMD groups along each axis. -/
def stagedProduct : Gemm.Descriptor where
  block := ⟨32, 32, 8⟩
  memory := ⟨.fp16, .bf16, .fp32⟩
  register := ⟨.fp16, .bf16, .fp32⟩
  splits := ⟨2, 2⟩
  transpose := ⟨true, false⟩
  asyncLoad := true
  asyncStore := true

/-- Derivatives of keys and values of which none is kept, with all that is read staged, and a head dimension that does
    not fill its blocks. -/
def streamedDerivatives : Attention.Descriptor where
  block := ⟨32, 16, 8⟩
  memory := ⟨.replicate 15 .fp32⟩
  register := ⟨.replicate 15 .fp32⟩
  head := 20
  asyncCache := true
  asyncLoad := true
  type := ⟨.backwardKeyValue, true⟩

theorem copies_fenced_staged :
    (∃ kernel, Gemm.Kernel.ofDescriptor stagedProduct = .ok kernel ∧
      ∃ body, IsFunctionBody kernel.source Gemm.Kernel.entryPoint kernel.arguments body ∧
        Fenced kernel.arguments (body.map bare)) ∧
    ∃ kernel, Attention.Kernel.ofDescriptor streamedDerivatives = .ok kernel ∧
      ∃ body, IsFunctionBody kernel.source Attention.Kernel.entryPoint kernel.arguments body ∧
        Fenced kernel.arguments (body.map bare) :=
  ⟨⟨_, rfl, copies_fenced.1 stagedProduct _ rfl⟩, _, rfl, copies_fenced.2 streamedDerivatives _ rfl⟩

end KernelForge
