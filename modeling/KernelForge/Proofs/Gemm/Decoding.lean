import KernelForge.Proofs.Gemm.Document
import KernelForge.Proofs.Json.Record

/-!
A kernel for matrix products comes back from its document: what is zero is left out and is zero again, and the formats
and the axis of the bias come back from their names.
-/

namespace KernelForge

open Text (Within)

namespace Precision

/-- The name of a format is read as the format, and written as it is. -/
theorem parse_name {precision : Precision} (valid : precision.isValid) :
    Precision.parse precision.name = .ok precision ∧ Within Json.isPlain precision.name := by
  simp only [isValid, Bool.or_eq_true, beq_iff_eq] at valid
  rcases valid with (rfl | rfl) | rfl
  · exact ⟨by decide +kernel, by decide⟩
  · exact ⟨by decide +kernel, by decide⟩
  · exact ⟨by decide +kernel, by decide⟩

end Precision

namespace Gemm

open Json (Value Dialect Mode Layout Fills)

variable {layout : Layout} {mode : Mode}

/-- Only strides that are all zero leave nothing to write. -/
theorem eq_zero_of_strideMembers {leading : PerOperand UInt16}
    (empty : strideMembers leading.a.toNat leading.b.toNat leading.c.toNat = []) : leading = ⟨0, 0, 0⟩ := by
  have zero : ∀ stride : UInt16, stride.toNat = 0 → stride = 0 := fun stride => (@UInt16.toNat_inj stride 0).mp
  obtain ⟨a, b, c⟩ := leading
  simp only [strideMembers, Json.naturalUnlessZero, Json.member, List.append_eq_nil_iff, ite_eq_left_iff,
    List.cons_ne_nil, imp_false, not_not] at empty
  rw [zero a empty.1.1, zero b empty.1.2, zero c empty.2]

theorem Bias.eq_of_written {bias : Bias} (empty : bias.written = []) : bias = {} := by
  obtain ⟨axis, precision⟩ := bias
  simp only [written, Json.member, List.append_eq_nil_iff, ite_eq_left_iff, List.cons_ne_nil, imp_false,
    not_not] at empty
  rw [empty.1, empty.2]

section Records

variable (spaced : layout.Spaced)

include spaced

theorem Block.reads (block held : Block) :
    (Value.object [("m", .natural block.m.toNat), ("n", .natural block.n.toNat), ("k", .natural block.k.toNat)]).Reads
      layout (Block.read (Json.format mode) () held) block := by
  refine Json.reads_object spaced ["m", "n", "k"] rfl (by decide) ?_
  refine .cons rfl (Json.reads_of (Json.reads_uint16 block.m _) _ _) ?_
  refine .cons rfl (Json.reads_of (Json.reads_uint16 block.n _) _ _) ?_
  refine .cons rfl (Json.reads_of (Json.reads_uint16 block.k _) _ _) ?_
  exact .nil _

theorem Splits.reads (splits held : Splits) :
    (Value.object [("m", .natural splits.m.toNat), ("n", .natural splits.n.toNat)]).Reads
      layout (Splits.read (Json.format mode) () held) splits := by
  refine Json.reads_object spaced ["m", "n"] rfl (by decide) ?_
  refine .cons rfl (Json.reads_of (Json.reads_uint16 splits.m _) _ _) ?_
  refine .cons rfl (Json.reads_of (Json.reads_uint16 splits.n _) _ _) ?_
  exact .nil _

theorem leading_reads (leading : PerOperand UInt16) {held : PerOperand UInt16} (none : held = ⟨0, 0, 0⟩) :
    (Value.object (strideMembers leading.a.toNat leading.b.toNat leading.c.toNat)).Reads layout
      (PerOperand.read (Json.format mode) (Json.format mode).uint16 () held) leading := by
  subst none
  obtain ⟨a, b, c⟩ := leading
  have zero : ∀ stride : UInt16, stride.toNat = 0 → stride = 0 := fun stride => (@UInt16.toNat_inj stride 0).mp
  refine Json.reads_object spaced ["a", "b", "c"] rfl (by decide) ?_
  refine .append (.append (.optional rfl (Json.reads_of (Json.reads_uint16 a _) _ _) ?_)
    (.optional rfl (Json.reads_of (Json.reads_uint16 b _) _ _) ?_))
    (.optional rfl (Json.reads_of (Json.reads_uint16 c _) _ _) ?_)
  · intro none
    rw [zero a none]
  · intro none
    rw [zero b none]
  · intro none
    rw [zero c none]

theorem Transpose.reads (transpose : Transpose) {held : Transpose} (none : held = {}) :
    (Value.object transpose.members).Reads layout (Transpose.read (Json.format mode) () held) transpose := by
  subst none
  obtain ⟨a, b⟩ := transpose
  refine Json.reads_object spaced ["a", "b"] rfl (by decide) ?_
  refine .append (.flagIfSet rfl (Json.reads_of (Json.reads_boolean mode _ a) _ _) ?_)
    (.flagIfSet rfl (Json.reads_of (Json.reads_boolean mode _ b) _ _) ?_)
  · intro (off : a = false)
    rw [off]
  · intro (off : b = false)
    rw [off]

theorem Bias.reads {bias : Bias} (known : bias.axis = .none ∨ bias.axis = .rows ∨ bias.axis = .columns)
    (named : bias.Named) {held : Bias} (none : held = {}) :
    (Value.object bias.written).Reads layout (Bias.read (Json.format mode) () held) bias := by
  subst none
  obtain ⟨axis, precision⟩ := bias
  have ofAxis : BiasAxis.parse axis.name = .ok axis ∧ Within Json.isPlain axis.name := by
    rcases known with rfl | rfl | rfl
    · exact ⟨rfl, by decide⟩
    · exact ⟨rfl, by decide⟩
    · exact ⟨rfl, by decide⟩
  refine Json.reads_object spaced ["axis", "precision"] rfl (by decide) ?_
  refine .append (.optional rfl (Json.reads_field ofAxis.2 ofAxis.1 _ _ _ _) ?_) ?_
  · intro (none : axis = .none)
    rw [none]
  · rcases named with (unset : precision = .unset) | valid
    · rw [unset]
      exact .nil _
    · obtain ⟨parsed, plain⟩ := Precision.parse_name valid
      refine .optional rfl ?_ ?_
      · exact Json.reads_field plain parsed _ _ _ _
      · intro (unset : precision = .unset)
        rw [unset]

theorem precisions_read {σ : Type} {precisions : PerOperand Precision} (valid : precisions.Valid) {key : String}
    {get : σ → PerOperand Precision} {put : σ → PerOperand Precision → σ} {clear : PerOperand (σ → σ)}
    (get_put : ∀ held value, get (put held value) = value)
    (put_put : ∀ held value other, put (put held value) other = put held other) (held : σ) :
    (Value.object precisions.written).Reads layout
      ((precisionsField (Json.format mode) key get put clear).read () held) (put held precisions) := by
  obtain ⟨a, b, c⟩ := precisions
  obtain ⟨parsedA, plainA⟩ := Precision.parse_name (valid .a)
  obtain ⟨parsedB, plainB⟩ := Precision.parse_name (valid .b)
  obtain ⟨parsedC, plainC⟩ := Precision.parse_name (valid .c)
  refine Json.reads_object spaced ["a", "b", "c"] rfl (by decide) ?_
  refine .cons rfl (Json.reads_field plainA parsedA _ _ _ _) ?_
  refine .cons rfl (Json.reads_field plainB parsedB _ _ _ _) ?_
  refine .cons rfl (Json.reads_field plainC parsedC _ _ _ _) ?_
  simp only [get_put, put_put]
  exact .nil _

/-- A kernel as it is after a document, starting from nothing. -/
theorem Descriptor.reads {descriptor : Descriptor} (named : descriptor.Named)
    (known : descriptor.bias.axis = .none ∨ descriptor.bias.axis = .rows ∨ descriptor.bias.axis = .columns)
    (dialect : Dialect) :
    (Value.object (descriptor.written dialect)).Reads layout (Descriptor.read (Json.format mode) () default)
      descriptor := by
  obtain ⟨block, leading, memory, register, splits, transpose, asyncLoad, asyncStore, bias⟩ := descriptor
  refine Json.reads_object spaced ["block_dimensions", "leading_block_dimensions", "memory_precisions",
    "register_precisions", "splits", "transpose", "prefer_async_load", "prefer_async_store", "bias"] rfl (by decide) ?_
  simp only [written, List.append_assoc]
  refine .append (.one rfl (Json.reads_of (Block.reads spaced block _) _ _)) ?_
  refine .append (.optionalObject rfl (Json.reads_of (leading_reads spaced leading (by rfl)) _ _) ?_) ?_
  · intro empty
    rw [eq_zero_of_strideMembers empty]
    rfl
  refine .append (.one rfl (precisions_read spaced named.memory (by intros; rfl) (by intros; rfl) _)) ?_
  refine .append (.one rfl (precisions_read spaced named.register (by intros; rfl) (by intros; rfl) _)) ?_
  refine .append (.one rfl (Json.reads_of (Splits.reads spaced splits _) _ _)) ?_
  refine .append (.one rfl (Json.reads_of (Transpose.reads spaced transpose (by rfl)) _ _)) ?_
  refine .append (.flagIfSet rfl (Json.reads_of (Json.reads_boolean mode _ asyncLoad) _ _) ?_) ?_
  · intro (off : asyncLoad = false)
    rw [off]
    rfl
  refine .append (.flagIfSet rfl (Json.reads_of (Json.reads_boolean mode _ asyncStore) _ _) ?_) ?_
  · intro (off : asyncStore = false)
    rw [off]
    rfl
  refine .optionalObject rfl (Json.reads_of (Bias.reads spaced known named.bias (by rfl)) _ _) ?_
  intro empty
  rw [Bias.eq_of_written empty]
  rfl

end Records

end Gemm

end KernelForge
