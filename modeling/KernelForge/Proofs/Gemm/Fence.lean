import KernelForge.Proofs.Gemm.Bracket
import KernelForge.Proofs.Shader.Fence

/-!
Copies of a kernel for matrix products. The previous product at an edge and every staged step of the factors are copied
to threadgroup memory behind a barrier; the product leaves for device memory.
-/

namespace KernelForge

theorem Precision.dotless_scalarName (precision : Precision) : Text.Within (· ≠ '.') precision.scalarName := by
  unfold scalarName
  split
  · decide
  split
  · decide
  split <;> decide

namespace Gemm.Kernel

open Text (Within within_append effect effect_append effect_word)
open Shader (Stmt Stmt.effect Stmt.flat Stmt.Dotless Stmt.Quiet QuietAll quietAll_append initial initial_append
  initial_literal Fences copies copies_skip flatAll effectAll dotless_word)

variable (kernel : Kernel)

theorem quiet_addBias : QuietAll kernel.addBias := by
  unfold addBias
  dsimp only
  split
  · trivial
  split
  · simp only [Shader.tileLoop, QuietAll, Stmt.Quiet, Text.toString_self, initial_append]
    simp (disch := rfl) only [initial_literal]
    simp
  split
  · simp only [Shader.tileLoop, QuietAll, Stmt.Quiet, Text.toString_self, initial_append]
    simp (disch := rfl) only [initial_literal]
    simp
  · simp only [QuietAll, Stmt.Quiet, and_self]

theorem quiet_eachTile {body : List Stmt} (quiet : QuietAll body) : (kernel.eachTile body).Quiet := by
  simp only [eachTile, Shader.tileLoop, QuietAll, Stmt.Quiet, List.cons_append, List.nil_append, Text.toString_self,
    initial_append]
  simp (disch := rfl) only [initial_literal]
  simpa using quiet

theorem initial_fastPath : initial kernel.fastPath ≠ some 's' := by
  unfold fastPath
  rw [initial_append]
  split
  all_goals
    simp (disch := rfl) only [initial_literal]
    simp

theorem quiet_productTile : QuietAll productTile := by
  simp only [productTile, QuietAll, Stmt.Quiet]
  simp (disch := rfl) only [initial_literal]
  simp

theorem quiet_offsetPointer (scalar target matrix stride offset : String) :
    (offsetPointer scalar target matrix stride offset).Quiet := by
  simp only [offsetPointer, Stmt.Quiet, Text.toString_self, initial_append]
  simp (disch := rfl) only [initial_literal]
  simp

theorem quiet_factorPointer (scalar target matrix stride offset trans : String) :
    (factorPointer scalar target matrix stride offset trans).Quiet := by
  simp only [factorPointer, Stmt.Quiet, Text.toString_self, initial_append]
  simp (disch := rfl) only [initial_literal]
  simp

theorem quiet_factorTiles : QuietAll kernel.factorTiles := by
  simp only [factorTiles, QuietAll, Stmt.Quiet, Text.toString_self, initial_append]
  simp (disch := rfl) only [initial_literal]
  simp

theorem quiet_directSteps : QuietAll kernel.directSteps := by
  simp only [directSteps, List.cons_append, List.nil_append, QuietAll, Stmt.Quiet, quietAll_append,
    quiet_factorPointer, quiet_factorTiles]
  simp (disch := rfl) only [initial_literal]
  simp

theorem dotless_strideName (operand : Operand) : Within (· ≠ '.') (strideName operand) := by
  cases operand <;> decide

theorem dotless_memoryName (operand : Operand) : Within (· ≠ '.') (kernel.memoryName operand) :=
  Precision.dotless_scalarName _

theorem fences_stageFactors (arguments : List String) : Fences arguments kernel.stageFactors := by
  unfold stageFactors
  dsimp only
  apply Shader.fences_staged
  · simp only [factorPointer, effectAll, Stmt.effect, effect_append, Text.toString_self,
      effect_word, effect_memoryName, effect_strideName]
    simp (disch := rfl) only [Text.effect_literal]
    cbv
  · simp only [QuietAll, Stmt.Quiet, quiet_factorPointer, Text.toString_self, initial_append]
    simp (disch := rfl) only [initial_literal]
    simp
  · refine Shader.waits_two "A_block" "B_block" ?_ rfl
    refine (Shader.copies_drop 16 ?_).trans ?_
    · simp only [List.take_succ_cons, List.take_zero, factorPointer, List.forall_mem_cons, Stmt.Dotless,
        Text.toString_self, within_append, dotless_strideName, dotless_memoryName]
      simp (disch := rfl) only [Text.within_literal]
      simp
    · simp only [List.drop_succ_cons, List.drop_zero, Text.toString_self, String.append_assoc]
      rw [Shader.copies_cons "events[0].async_copy(A_block, " "events[0]" "A_block" rfl (by decide) (by decide)
          (by decide),
        Shader.copies_cons "events[1].async_copy(B_block, " "events[1]" "B_block" rfl (by decide) (by decide)
          (by decide), copies_skip rfl rfl]
      rfl

theorem fences_loadProduct (arguments : List String) : Fences arguments kernel.loadProduct := by
  unfold loadProduct
  dsimp only
  refine .cons (.condElse kernel.initial_fastPath (QuietAll.fences ?_) ?_) (QuietAll.fences ?_)
  · simp only [QuietAll, Stmt.Quiet, quiet_offsetPointer, Text.toString_self, and_true, true_and]
    refine ⟨?_, kernel.quiet_eachTile ?_⟩
    · simp (disch := rfl) only [initial_literal]
      simp
    · simp only [QuietAll, Stmt.Quiet, initial_append]
      simp (disch := rfl) only [initial_literal]
      simp
  · refine .append (.append (QuietAll.fences ?_) (Shader.fences_staged ?_ ?_ ?_)) (QuietAll.fences ?_)
    · simp only [QuietAll, Stmt.Quiet, quiet_offsetPointer, Text.toString_self, initial_append]
      simp (disch := rfl) only [initial_literal]
      simp
    · simp only [offsetPointer, List.cons_append, List.nil_append, effectAll, Shader.effectAll_append, Stmt.effect,
        effect_append, Text.toString_self, effect_word, effect_memoryName, effect_strideName, effectAll_productTile]
      simp (disch := rfl) only [Text.effect_literal]
      cbv
    · simp only [List.cons_append, List.nil_append, QuietAll, Stmt.Quiet, quietAll_append, quiet_productTile,
        quiet_offsetPointer, Text.toString_self, initial_append]
      simp (disch := rfl) only [initial_literal]
      simp
    · refine Shader.waits_one "C_block" ?_ rfl
      simp only [productTile, List.cons_append, List.nil_append]
      rw [copies_skip rfl rfl, copies_skip rfl rfl, copies_skip rfl rfl]
      refine (Shader.copies_drop 3 ?_).trans ?_
      · simp only [List.take_succ_cons, List.take_zero, offsetPointer, List.forall_mem_cons, Stmt.Dotless,
          Text.toString_self, within_append, dotless_strideName, dotless_memoryName]
        simp (disch := rfl) only [Text.within_literal]
        simp
      · simp only [List.drop_succ_cons, List.drop_zero, Text.toString_self, String.append_assoc]
        rw [Shader.copies_cons "event.async_copy(C_block, " "event" "C_block" rfl (by decide) (by decide) (by decide),
          copies_skip rfl rfl]
        rfl
    · simp only [QuietAll, Stmt.Quiet, and_true]
      apply quiet_eachTile
      simp only [QuietAll, Stmt.Quiet, Text.toString_self, initial_append]
      simp (disch := rfl) only [initial_literal]
      simp
  · simp only [QuietAll, Stmt.Quiet, and_true]
    refine ⟨by decide, kernel.quiet_eachTile ?_⟩
    simp only [QuietAll, Stmt.Quiet, Text.toString_self, initial_append]
    simp (disch := rfl) only [initial_literal]
    simp

theorem fences_startProduct (arguments : List String) : Fences arguments kernel.startProduct := by
  refine .cons (QuietAll.fences ?_) (.cons (.condElse (by decide) (kernel.fences_loadProduct arguments)
    (QuietAll.fences ?_)) (QuietAll.fences ⟨trivial, trivial⟩))
  · simp only [QuietAll, Stmt.Quiet, Text.toString_self, initial_append]
    simp (disch := rfl) only [initial_literal]
    simp
  · refine ⟨kernel.quiet_eachTile ?_, trivial⟩
    simp only [QuietAll, Stmt.Quiet, Text.toString_self, initial_append]
    simp (disch := rfl) only [initial_literal]
    simp

theorem fences_stagedSteps (arguments : List String) : Fences arguments kernel.stagedSteps := by
  have step : initial "multiply_accumulate(A_block_src, B_block_src, A_sram, B_sram, C_sram, k);" = some 'm' :=
    initial_literal rfl
  refine .cons (QuietAll.fences ⟨trivial, trivial⟩) (.cons (QuietAll.fences ⟨trivial, trivial⟩)
    (.cons (.loop ?_ _ _) (QuietAll.fences ⟨trivial, trivial⟩)))
  refine .append (.append (.append (.append (QuietAll.fences ?_) (kernel.fences_stageFactors arguments))
    (QuietAll.fences ?_)) kernel.quiet_factorTiles.fences) (QuietAll.fences ?_)
  · simp only [QuietAll, Stmt.Quiet, Text.toString_self, initial_append]
    simp (disch := rfl) only [initial_literal]
    simp
  · simp only [QuietAll, Stmt.Quiet, quiet_factorPointer]
    simp (disch := rfl) only [initial_literal]
    simp
  · simp only [QuietAll, Stmt.Quiet, step]
    simp (disch := rfl) only [initial_literal]
    simp

theorem isBuffer_product : Shader.IsBuffer kernel.arguments "C" := by
  have spelled : " *C [[buffer(2)]]" = " *" ++ ("C" ++ (" [[buffer(" ++ "2)]]")) := by decide
  refine ⟨kernel.memory .c, "2)]]", ?_⟩
  rw [String.append_assoc, String.append_assoc, String.append_assoc, ← spelled]
  simp only [arguments, List.mem_append, List.mem_cons]
  exact .inl (.inl (.inr (.inr (.inl rfl))))

theorem flat_offsetPointer (scalar target matrix stride offset : String) :
    (offsetPointer scalar target matrix stride offset).flat =
      ["auto " ++ target ++ " = simdgroup_matrix_storage<" ++ scalar ++ ">::apply_offset(" ++ matrix ++ ", " ++
        (stride ++ (", " ++ (offset ++ ");")))] := by
  have keyword : initial "auto " = some 'a' := rfl
  simp only [offsetPointer, Stmt.flat, Text.toString_self, String.append_assoc]
  rw [Shader.bare_front keyword (by decide)]

theorem fences_storeProduct : Fences kernel.arguments kernel.storeProduct := by
  unfold storeProduct
  dsimp only
  refine .condElse kernel.initial_fastPath (QuietAll.fences ?_) (.append (QuietAll.fences ?_)
    (Shader.fences_outward ?_ ?_ ⟨"event", "C_dst"⟩ ?_ ?_) : Fences kernel.arguments ([_, _, _, _, _, _, _] ++ [_]))
  · simp only [QuietAll, Stmt.Quiet, quiet_offsetPointer, and_true, true_and]
    refine ⟨?_, kernel.quiet_eachTile ?_⟩
    · simp (disch := rfl) only [initial_literal]
      simp
    · simp only [QuietAll, Stmt.Quiet, Text.toString_self, initial_append]
      simp (disch := rfl) only [initial_literal]
      simp
  · simp only [QuietAll, Stmt.Quiet, quiet_offsetPointer, Text.toString_self, initial_append, and_true, true_and]
    refine ⟨?_, kernel.quiet_eachTile ?_⟩
    · simp (disch := rfl) only [initial_literal]
      simp
    · simp only [QuietAll, Stmt.Quiet, initial_append]
      simp (disch := rfl) only [initial_literal]
      simp
  · simp only [offsetPointer, List.cons_append, List.nil_append, effectAll, Shader.effectAll_append, Stmt.effect,
      effect_append, Text.toString_self, effect_word, effect_memoryName, effect_strideName, effectAll_productTile]
    simp (disch := rfl) only [Text.effect_literal]
    cbv
  · simp only [List.cons_append, List.nil_append, QuietAll, Stmt.Quiet, quietAll_append, quiet_productTile,
      quiet_offsetPointer, Text.toString_self, initial_append]
    simp (disch := rfl) only [initial_literal]
    simp
  · simp only [productTile, List.cons_append, List.nil_append]
    rw [copies_skip rfl rfl, copies_skip rfl rfl, copies_skip rfl rfl]
    rw [offsetPointer, Shader.copies_skip_dotless]
    · simp (disch := first | rfl | decide) only [copies_skip, Shader.copies_skip_blank, Shader.copies_skip_comment,
        Shader.copies_cond]
      rw [Shader.copies_skip_dotless]
      · simp only [Text.toString_self, String.append_assoc]
        rw [Shader.copies_cons "event.async_copy(C_dst, " "event" "C_dst" rfl (by decide) (by decide) (by decide)]
        rfl
      · simp only [Text.toString_self, within_append, dotless_memoryName, dotless_word]
        simp (disch := rfl) only [Text.within_literal]
        simp
    · simp only [Text.toString_self, within_append, dotless_memoryName, dotless_strideName]
      simp (disch := rfl) only [Text.within_literal]
      simp
  · refine ⟨kernel.memory .c, "C", strideName .c ++ (", " ++ ("C_offset" ++ ");")), kernel.isBuffer_product, ?_⟩
    have pointer := flat_offsetPointer (kernel.memoryName .c) "C_dst" "C" (strideName .c) "C_offset"
    simp only [List.cons_append, Shader.flatAll_append, flatAll, pointer, List.mem_append]
    exact .inr (.inr List.mem_cons_self)

/-- The function body of a kernel: every block of the first SIMD group that copies to threadgroup memory waits for its
    copies, and a barrier follows. -/
theorem fences_functionBody : Fences kernel.arguments kernel.functionBody := by
  refine .append (.append (.append (.append (.append (QuietAll.fences ?_) (kernel.fences_startProduct _))
    kernel.quiet_addBias.fences) kernel.quiet_directSteps.fences) (kernel.fences_stagedSteps _))
    kernel.fences_storeProduct
  simp only [QuietAll, Stmt.Quiet, Text.toString_self, initial_append]
  simp (disch := rfl) only [initial_literal]
  simp

end Gemm.Kernel

end KernelForge
