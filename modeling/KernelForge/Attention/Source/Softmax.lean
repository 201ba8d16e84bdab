import KernelForge.Attention.Source.Layout

/-!
The text that turns scores into probabilities. The forward pass keeps a running maximum and sum of each row;
the backward passes start from the stored logarithms of the row sums. Each lane holds two neighbouring
columns of one row of a tile, and the eight values of a row are spread over lanes whose numbers differ in the
bits 0 and 3.
-/

namespace KernelForge.Attention.Kernel

open Shader (Stmt fenced)

/-- Combines the values of a row over its lanes. -/
def reduceRow (name operation : String) : List Stmt :=
  [.line s!"{name} = {operation}({name}, simd_shuffle_xor({name}, 1));",
    .line s!"{name} = {operation}({name}, simd_shuffle_xor({name}, 8));"]

/-- Adds the values of a row over its lanes. -/
def sumRow (name : String) : List Stmt :=
  [.line s!"{name} += simd_shuffle_xor({name}, 1);", .line s!"{name} += simd_shuffle_xor({name}, 8);"]

/-- Scores beyond the end of the sequence get a value that vanishes in the softmax. -/
def maskEdge (kernel : Kernel) : List Stmt :=
  let traversal := kernel.descriptor.block.traversal
  let register := kernel.registerName .s
  [.cond
      (s!"(traversal_remainder != {traversal}) && " ++
        s!"({kernel.traversalIndex} + {traversal} > {kernel.traversalName})")
      [.line "const float mask_value = (0.875 / M_LOG2E_F) * -numeric_limits<float>::max();",
        .scope
          [.line "auto S_elements = S_sram[traversal_remainder_floor / 8].thread_elements();",
            .loop .full "ushort index = 0; index < 2; ++index"
              [.cond "morton_offset.x + index >= traversal_remainder - traversal_remainder_floor"
                [.line s!"(*S_elements)[index] = {register}(mask_value);"]]],
        tilesFrom "c" "traversal_remainder_floor + 8" s!"{traversal}"
          [.line s!"*(S_sram[c / 8].thread_elements()) = vec<{register}, 2>(mask_value);"]],
    .blank]

/-- The running maximum and sum of a row take in a block of scores, which become probabilities that are not
    normalized yet. -/
def onlineSoftmax (kernel : Kernel) : List Stmt :=
  let scale := kernel.forwardScale
  let register := kernel.registerName .p
  [.line "float2 m_new_accumulate = float2(-numeric_limits<float>::max());",
    kernel.traversalTiles
      [.line "m_new_accumulate = max(m_new_accumulate, float2(*S_sram[c / 8].thread_elements()));"],
    .line "float m_new = max(m_new_accumulate[0], m_new_accumulate[1]);"] ++
    reduceRow "m_new" "max" ++
    [.line s!"m_new = max(m, m_new * {scale});", .blank, .line "float correction = 1;",
      .cond "m_new > m" [.line "correction = fast::exp2(m - m_new);", .line "m = m_new;"], .blank,
      kernel.tiles .p (kernel.descriptor.block.traversal / 8),
      kernel.traversalTiles
        [.line "float2 S_elements = float2(*S_sram[c / 8].thread_elements());",
          .line s!"float2 P_elements = fast::exp2(S_elements * {scale} - m);",
          .line s!"*(P_sram[c / 8].thread_elements()) = vec<{register}, 2>(P_elements);"],
      .blank, .line "float2 l_new_accumulate = float2(0);",
      kernel.traversalTiles [.line "l_new_accumulate += float2(*P_sram[c / 8].thread_elements());"],
      .line "float l_new = l_new_accumulate[0] + l_new_accumulate[1];"] ++
    sumRow "l_new" ++ [.line "l = l * correction + l_new;", .blank]

/-- Probabilities from scores and the stored term of a row, given as an expression. -/
def probabilities (kernel : Kernel) (term : String) : List Stmt :=
  let register := kernel.registerName .p
  [kernel.tiles .p (kernel.descriptor.block.traversal / 8),
    kernel.traversalTiles
      [.line "float2 S_elements = float2(*S_sram[c / 8].thread_elements());",
        .line s!"float2 P_elements = fast::exp2(S_elements * {kernel.forwardScale} - {term});",
        .line s!"*(P_sram[c / 8].thread_elements()) = vec<{register}, 2>(P_elements);"],
    .blank]

/-- The derivative of the scores from probabilities, their derivative and the term of a row. -/
def scoreDerivatives (kernel : Kernel) (term : String) : List Stmt :=
  let register := kernel.registerName .dS
  [kernel.tiles .dS (kernel.descriptor.block.traversal / 8),
    kernel.traversalTiles
      [.line "float2 P_elements = float2(*P_sram[c / 8].thread_elements());",
        .line "float2 dP_elements = float2(*dP_sram[c / 8].thread_elements());",
        .line s!"float2 dS_elements = P_elements * (dP_elements * {kernel.backwardScale} - {term});",
        .line s!"*(dS_sram[c / 8].thread_elements()) = vec<{register}, 2>(dS_elements);"],
    .blank]

/-- The slice of a vector along the traversal, two columns a lane. At the edge it is staged, with zeros
    behind its end. -/
def columnTerms (kernel : Kernel) (operand : Operand) : List Stmt :=
  let name := operand.name
  let memory := kernel.memoryName operand
  let traversal := kernel.descriptor.block.traversal
  let terms (source : String) : Stmt :=
    kernel.traversalTiles [.line s!"{name}_terms[c / 8] = float2({source}[c], {source}[c + 1]);"]
  let direct : List Stmt :=
    [.line s!"auto {name}_src = {name} + r + morton_offset.x;", terms s!"{name}_src"]
  let staged : List Stmt :=
    fenced
      [.line s!"auto dst = (threadgroup {memory}*)(threadgroup_block);", .line s!"auto src = {name} + r;",
        .line s!"ushort R_src_dimension = min(uint({traversal}), uint(R - r));",
        .line "ushort R_dst_dimension = max(ushort(padded_traversal_edge), R_src_dimension);", .blank,
        .line "simdgroup_event event;",
        .line (s!"event.async_copy(dst, {traversal}, ushort2(R_dst_dimension, 1), src, {traversal}, " ++
          "ushort2(R_src_dimension, 1));"),
        .line "simdgroup_event::wait(1, &event);"] [] ++
      [.line s!"auto {name}_block = (threadgroup {memory}*)(threadgroup_block) + morton_offset.x;",
        terms s!"{name}_block"]
  [.line s!"float2 {name}_terms[{traversal / 8}];",
    if kernel.descriptor.asyncLoad then .scope staged
    else .condElse s!"r + {traversal} <= R" direct staged,
    .blank]

/-- The derivative of the scores into its buffer, row by row. -/
def storeScoreDerivatives (kernel : Kernel) : List Stmt :=
  [.cond s!"{threadOffset} < C"
      [kernel.traversalTiles
        [.line "uint row = r + c + morton_offset.x;",
          .line "float2 dS_elements = float2(*dS_sram[c / 8].thread_elements());",
          .loop .full "ushort index = 0; index < 2; ++index"
            [.cond "row + index < R"
              [.line (s!"dST[(row + index) * dST_leading_dimension + {threadOffset}] = " ++
                s!"{kernel.memoryName .dST}(dS_elements[index]);")]]]],
    .blank]

end KernelForge.Attention.Kernel
