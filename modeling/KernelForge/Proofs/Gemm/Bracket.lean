import KernelForge.Gemm.Source
import KernelForge.Proofs.Shader.Bracket

/-!
Brackets of the text of a kernel for matrix products. Each part of the text leaves the brackets around it as they are,
whatever the kernel.
-/

namespace KernelForge

open Text (effect effect_append effect_word effect_numeral)

namespace Precision

@[simp]
theorem effect_scalarName (precision : Precision) : effect precision.scalarName = 1 := by
  unfold scalarName
  split
  · rfl
  split
  · rfl
  split <;> rfl

@[simp]
theorem effect_loadFunction (memory register : Precision) : effect (loadFunction memory register) = 1 := by
  unfold loadFunction
  split <;> rfl

@[simp]
theorem effect_storeFunction (memory register : Precision) : effect (storeFunction memory register) = 1 := by
  unfold storeFunction
  split <;> rfl

end Precision

namespace Gemm.Kernel

open Shader (effectAll effectAll_append Stmt.effect effect_tileLoop effectAll_staged effect_boolean inBraces
  inBraces_one inParentheses_one)

theorem effect_strideName (operand : Operand) : effect (strideName operand) = 1 := by
  cases operand <;> rfl

theorem effectAll_productTile : effectAll productTile = 1 := by
  simp only [productTile, effectAll, Stmt.effect]
  simp (disch := rfl) only [Text.effect_literal]
  cbv

variable (kernel : Kernel)

theorem effect_memoryName (operand : Operand) : effect (kernel.memoryName operand) = 1 :=
  Precision.effect_scalarName _

theorem effect_registerName (operand : Operand) : effect (kernel.registerName operand) = 1 :=
  Precision.effect_scalarName _

theorem effect_fastPath : effect kernel.fastPath = 1 := by
  unfold fastPath
  rw [effect_append]
  split
  all_goals
    simp (disch := rfl) only [Text.effect_literal]
    cbv

theorem effect_stagedStart : effect kernel.stagedStart = 1 := by
  unfold stagedStart
  split
  · rfl
  · simp (disch := rfl) only [Text.effect_literal]
    cbv

theorem effect_eachTile (body : List Shader.Stmt) :
    (kernel.eachTile body).effect = inBraces (inBraces (effectAll body)) := by
  have m : effect "m" = 1 := rfl
  have n : effect "n" = 1 := rfl
  have origin : effect "ushort2 origin(n, m);" = 1 := rfl
  have lookup : effect "auto C = get_sram(C_sram, " * effect ", origin);" = 1 := rfl
  simp only [eachTile, effect_tileLoop, effectAll, effectAll_append, Stmt.effect, effect_append, Text.toString_self,
    effect_word, m, n, mul_one, one_mul, inParentheses_one, origin, lookup]

theorem effectAll_loadProduct : effectAll kernel.loadProduct = 1 := by
  simp only [loadProduct, offsetPointer, List.cons_append, List.nil_append, effectAll, effectAll_append, Stmt.effect,
    effect_append, Text.toString_self, effect_word, effectAll_staged, effect_eachTile, effect_fastPath,
    effect_memoryName, effect_registerName, effect_strideName, Precision.effect_loadFunction, effectAll_productTile]
  simp (disch := rfl) only [Text.effect_literal]
  cbv

theorem effectAll_startProduct : effectAll kernel.startProduct = 1 := by
  simp only [startProduct, effectAll, Stmt.effect, effect_append, Text.toString_self, effect_word,
    effectAll_loadProduct, effect_eachTile, effect_registerName]
  simp (disch := rfl) only [Text.effect_literal]
  cbv

theorem effectAll_addBias : effectAll kernel.addBias = 1 := by
  unfold addBias
  dsimp only
  split
  · rfl
  split
  · simp only [effectAll, Stmt.effect, effect_append, Text.toString_self, effect_word, effect_tileLoop,
      effect_registerName]
    simp (disch := rfl) only [Text.effect_literal]
    cbv
  split
  · simp only [effectAll, Stmt.effect, effect_append, Text.toString_self, effect_word, effect_tileLoop,
      effect_registerName]
    simp (disch := rfl) only [Text.effect_literal]
    cbv
  · rfl

theorem effectAll_storeProduct : effectAll kernel.storeProduct = 1 := by
  simp only [storeProduct, offsetPointer, List.cons_append, List.nil_append, effectAll, effectAll_append, Stmt.effect,
    effect_append, Text.toString_self, effect_word, effect_eachTile, effect_fastPath, effect_memoryName,
    effect_strideName, Precision.effect_storeFunction, effectAll_productTile]
  simp (disch := rfl) only [Text.effect_literal]
  cbv

theorem effectAll_multiplyAccumulate (space : Shader.AddressSpace) :
    effectAll (kernel.multiplyAccumulate space) = 1 := by
  have stride (operand : Operand) : effect (if space = .threadgroup then toString (kernel.leading.get operand)
      else strideName operand) = 1 := by
    split
    · exact effect_word _
    · exact effect_strideName operand
  simp only [multiplyAccumulate, effectAll, Stmt.effect, effect_append, Text.toString_self, effect_word,
    effect_tileLoop, Shader.AddressSpace.effect_keyword, effect_memoryName, effect_registerName,
    Precision.effect_loadFunction, stride]
  simp (disch := rfl) only [Text.effect_literal]
  cbv

theorem effectAll_factorTiles : effectAll kernel.factorTiles = 1 := by
  simp only [factorTiles, effectAll, Stmt.effect, effect_append, Text.toString_self, effect_word, effect_registerName]
  simp (disch := rfl) only [Text.effect_literal]
  cbv

theorem effectAll_directSteps : effectAll kernel.directSteps = 1 := by
  simp only [directSteps, factorPointer, List.cons_append, List.nil_append, effectAll, effectAll_append, Stmt.effect,
    effect_append, Text.toString_self, effect_stagedStart, effect_memoryName, effect_strideName,
    effectAll_factorTiles]
  simp (disch := rfl) only [Text.effect_literal]
  cbv

theorem effectAll_stageFactors : effectAll kernel.stageFactors = 1 := by
  simp only [stageFactors, factorPointer, effectAll, effectAll_staged, Stmt.effect, effect_append, Text.toString_self,
    effect_word, effect_memoryName, effect_strideName]
  simp (disch := rfl) only [Text.effect_literal]
  cbv

theorem effectAll_stagedSteps : effectAll kernel.stagedSteps = 1 := by
  simp only [stagedSteps, factorPointer, List.cons_append, List.nil_append, effectAll, effectAll_append, Stmt.effect,
    effect_append, Text.toString_self, effect_word, effect_numeral, effect_stagedStart, effect_memoryName,
    effectAll_stageFactors, effectAll_factorTiles]
  simp (disch := rfl) only [Text.effect_literal]
  cbv

theorem effectAll_functionBody : effectAll kernel.functionBody = 1 := by
  simp only [functionBody, List.cons_append, List.nil_append, effectAll, effectAll_append, Stmt.effect, effect_append,
    Text.toString_self, effect_word, effectAll_startProduct, effectAll_addBias, effectAll_directSteps,
    effectAll_stagedSteps, effectAll_storeProduct]
  simp (disch := rfl) only [Text.effect_literal]
  cbv

theorem effect_remainder {axis : String} (plain : effect axis = 1) (register : UInt16) :
    (remainder axis register).effect = 1 := by
  simp only [remainder, Stmt.effect, effect_append, Text.toString_self, effect_word, plain]
  simp (disch := rfl) only [Text.effect_literal]
  cbv

theorem effectAll_constantLines : effectAll kernel.constantLines = 1 := by
  have m : effect "M" = 1 := rfl
  have n : effect "N" = 1 := rfl
  simp only [constantLines, effectAll, Stmt.effect, effect_remainder m, effect_remainder n, effect_append,
    Text.toString_self, effect_word, effect_boolean]
  simp (disch := rfl) only [Text.effect_literal]
  cbv

theorem effectAll_tileLookup : effectAll tileLookup = 1 := by
  simp only [tileLookup, effectAll, Stmt.effect, effect_append]
  simp (disch := rfl) only [Text.effect_literal]
  cbv

theorem effect_argument : ∀ argument ∈ kernel.arguments, effect argument = 1 := by
  unfold arguments
  simp only [List.forall_mem_append, List.forall_mem_cons]
  refine ⟨⟨⟨?_, ?_, ?_, ?_⟩, ?_⟩, ?_, ?_, ?_, ?_, ?_⟩
  iterate 3
    simp only [effect_append, Text.toString_self, effect_memoryName]
    simp (disch := rfl) only [Text.effect_literal]
    cbv
  · simp
  · split
    · simp
    · simp only [List.forall_mem_singleton, effect_append, Text.toString_self, Precision.effect_scalarName]
      simp (disch := rfl) only [Text.effect_literal]
      cbv
  iterate 4
    simp (disch := rfl) only [Text.effect_literal]
    cbv
  · simp

/-- The statements of a kernel leave no bracket open. -/
theorem effectAll_statements : effectAll kernel.statements = 1 := by
  have namespaces : effect "using namespace metal;" = 1 := rfl
  have name : effect entryPoint = 1 := rfl
  simp only [statements, List.cons_append, List.nil_append, effectAll, effectAll_append, Stmt.effect, namespaces,
    effectAll_constantLines, effectAll_tileLookup, effectAll_multiplyAccumulate,
    Shader.effectAll_kernelHead name kernel.effect_argument, effectAll_functionBody, inBraces_one, one_mul]

/-- The text of a kernel leaves no bracket open. -/
theorem balanced_source : Text.Balanced kernel.source :=
  Shader.balanced_preamble.append (Shader.balanced_render kernel.effectAll_statements)

end Gemm.Kernel

end KernelForge
