import KernelForge.Proofs.Attention.Document
import KernelForge.Proofs.Attention.Names
import KernelForge.Proofs.Json.Dictionary

/-!
Descriptors come back from their documents. That of an attention kernel holds its sets of operands as names between
commas and its formats by name, and the pass by its name; that of a matrix product leaves out what is zero.
-/

namespace KernelForge.Attention

open Text (Within)
open Json (Value Mode Fills)

theorem Pass.parse_name {pass : Pass} (valid : pass.isValid = true) :
    Pass.parse pass.name = .ok pass ∧ Within Json.isPlain pass.name := by
  have cases : ∀ type ∈ KernelType.all, type.pass = .forward ∨ type.pass = .backwardQuery ∨
      type.pass = .backwardKeyValue := by decide
  have known : (⟨pass, false⟩ : KernelType) ∈ KernelType.all := KernelType.mem_all valid
  rcases cases _ known with (rfl : pass = _) | (rfl : pass = _) | (rfl : pass = _)
  · exact ⟨by decide +kernel, by decide⟩
  · exact ⟨by decide +kernel, by decide⟩
  · exact ⟨by decide +kernel, by decide⟩

theorem OperandSet.plain_render (set : OperandSet) : Within Json.isPlain set.render := by
  refine Text.within_joined (by decide) ?_
  intro text member
  obtain ⟨operand, -, rfl⟩ := List.mem_map.mp member
  exact operand.parse_name.2

/-- A kernel whose parts have names: a pass, formats of which some may be unset, and sets of the fifteen operands. -/
structure Descriptor.Named (descriptor : Descriptor) : Prop where
  pass : descriptor.type.pass.isValid = true
  memory : descriptor.memory.Named
  register : descriptor.register.Named
  cache : descriptor.cache.Proper
  transposed : descriptor.transposed.Proper

section Records

variable {layout : Json.Layout} {mode : Mode} (spaced : layout.Spaced)

include spaced

theorem Block.reads (block held : Block) :
    (Value.object [("parallelization", .natural block.parallelization.toNat),
      ("traversal", .natural block.traversal.toNat), ("head", .natural block.head.toNat)]).Reads layout
      (Block.read (Json.format mode) () held) block := by
  refine Json.reads_object spaced ["parallelization", "traversal", "head"] rfl (by decide) ?_
  refine .cons rfl (Json.reads_of (Json.reads_uint16 block.parallelization _) _ _) ?_
  refine .cons rfl (Json.reads_of (Json.reads_uint16 block.traversal _) _ _) ?_
  refine .cons rfl (Json.reads_of (Json.reads_uint16 block.head _) _ _) ?_
  exact .nil _

theorem KernelType.reads {type : KernelType} (valid : type.pass.isValid = true) {held : KernelType}
    (none : held = {}) : (Value.object type.written).Reads layout (KernelType.read (Json.format mode) () held) type := by
  subst none
  obtain ⟨pass, secondary⟩ := type
  obtain ⟨parsed, plain⟩ := Pass.parse_name valid
  refine Json.reads_object spaced ["pass", "secondary"] rfl (by decide) ?_
  refine .cons rfl (Json.reads_field plain parsed _ _ _ _) ?_
  refine .flagIfSet rfl (Json.reads_of (Json.reads_boolean mode _ secondary) _ _) ?_
  intro (off : secondary = false)
  rw [off]

theorem Precisions.reads {precisions : Precisions} (named : precisions.Named) :
    precisions.json.Reads layout (Precisions.read (Json.format mode) ()) precisions := by
  intro blanks depth rest blank ends
  have plain : Json.PlainEntries Precision.name precisions.named := by
    intro entry member
    obtain ⟨operand, valid, rfl⟩ := mem_named.mp member
    exact ⟨operand.parse_name.2, (Precision.parse_name valid).2⟩
  have known : ∀ entry ∈ precisions.named, Precision.parse entry.2.name = .ok entry.2 := by
    intro entry member
    obtain ⟨operand, valid, rfl⟩ := mem_named.mp member
    exact (Precision.parse_name valid).1
  refine Json.Takes.last (Json.reads_dictionary spaced mode plain known blanks depth rest blank ends) ?_
  rw [ofNamed_named named]
  exact Json.takes_pure precisions rest

/-- A kernel as it is after a document, starting from nothing. -/
theorem Descriptor.reads {descriptor : Descriptor} (named : descriptor.Named) :
    (Value.object descriptor.written).Reads layout (Descriptor.read (Json.format mode) () default) descriptor := by
  obtain ⟨block, cache, transposed, memory, register, head, asyncCache, asyncLoad, type⟩ := descriptor
  refine Json.reads_object spaced ["block_dimensions", "cache_state", "transpose_state", "memory_precisions",
    "register_precisions", "head_dimension", "prefer_async_cache", "prefer_async_load", "type"] rfl (by decide) ?_
  simp only [written, List.append_assoc]
  refine .append (.one rfl (Json.reads_of (Block.reads spaced block _) _ _)) ?_
  refine .append (.one rfl (Json.reads_field cache.plain_render (OperandSet.parse_render named.cache) _ _ _ _)) ?_
  refine .append (.one rfl (Json.reads_field transposed.plain_render
    (OperandSet.parse_render named.transposed) _ _ _ _)) ?_
  refine .append (.one rfl (Json.reads_of (Precisions.reads spaced named.memory) _ _)) ?_
  refine .append (.one rfl (Json.reads_of (Precisions.reads spaced named.register) _ _)) ?_
  refine .append (.one rfl (Json.reads_of (Json.reads_uint16 head _) _ _)) ?_
  refine .append (.flagIfSet rfl (Json.reads_of (Json.reads_boolean mode _ asyncCache) _ _) ?_) ?_
  · intro (off : asyncCache = false)
    rw [off]
    rfl
  refine .append (.flagIfSet rfl (Json.reads_of (Json.reads_boolean mode _ asyncLoad) _ _) ?_) ?_
  · intro (off : asyncLoad = false)
    rw [off]
    rfl
  exact .one rfl (Json.reads_of (KernelType.reads spaced named.pass (by rfl)) _ _)

end Records

end KernelForge.Attention

namespace KernelForge

open Json (Layout Mode Dialect)

/-- A kernel with names is written, and reading the text from nothing gives the same kernel: in each layout and dialect,
    as a document and as a request. -/
theorem readOnto_written (layout : Layout) (spaced : layout.Spaced) (mode : Mode) :
    (∀ (descriptor : Gemm.Descriptor) (dialect : Dialect), descriptor.Named →
      descriptor.bias.axis = .none ∨ descriptor.bias.axis = .rows ∨ descriptor.bias.axis = .columns →
        ∃ document, descriptor.json dialect = .ok document ∧
          Json.readOnto (Gemm.Descriptor.read (Json.format mode)) (document.write layout 0) default =
            .ok descriptor) ∧
      ∀ descriptor : Attention.Descriptor, descriptor.Named →
        ∃ document, descriptor.json = .ok document ∧
          Json.readOnto (Attention.Descriptor.read (Json.format mode)) (document.write layout 0) default =
            .ok descriptor := by
  constructor
  · intro descriptor dialect named axis
    exact ⟨_, Gemm.Descriptor.json_eq named dialect,
      Json.readOnto_write (Gemm.Descriptor.reads spaced named axis dialect) 0⟩
  · intro descriptor named
    exact ⟨_, Attention.Descriptor.json_eq named.pass,
      Json.readOnto_write (Attention.Descriptor.reads spaced named) 0⟩

/-- A product with a bias along its rows and a stride for one matrix. -/
def biasedProduct : Gemm.Descriptor where
  block := ⟨32, 32, 8⟩
  leading := ⟨0, 40, 0⟩
  memory := ⟨.bf16, .fp16, .fp32⟩
  register := ⟨.fp32, .fp16, .fp32⟩
  splits := ⟨2, 2⟩
  transpose := { b := true }
  asyncStore := true
  bias := ⟨.rows, .bf16⟩

/-- A pass for keys and values with some formats. -/
def mixedKeyValue : Attention.Descriptor where
  block := ⟨16, 64, 16⟩
  cache := .ofList [.dV, .k, .dS]
  memory := (Attention.Precisions.unset.set .dST .bf16).set .q .fp16
  register := Attention.Precisions.unset.setAll Attention.Operand.all .fp32
  head := 72
  asyncLoad := true
  type := ⟨.backwardKeyValue, true⟩

theorem readOnto_written_mixed :
    (∃ document, biasedProduct.json .full = .ok document ∧
      Json.readOnto (Gemm.Descriptor.read (Json.format .document)) document.compact default = .ok biasedProduct) ∧
    (∃ document, mixedKeyValue.json = .ok document ∧
      Json.readOnto (Attention.Descriptor.read (Json.format .document)) document.compact default =
        .ok mixedKeyValue) ∧
    ∃ document, mixedKeyValue.json = .ok document ∧
      Json.readOnto (Attention.Descriptor.read (Json.format .request)) (document.write .indented 0) default =
        .ok mixedKeyValue := by
  have named : mixedKeyValue.Named := ⟨rfl, by decide, by decide, by decide, by decide⟩
  obtain ⟨products, kernels⟩ := readOnto_written .compact Json.spaced_compact .document
  obtain ⟨-, indented⟩ := readOnto_written .indented Json.spaced_indented .request
  refine ⟨products biasedProduct .full ?_ (.inr (.inl rfl)), kernels mixedKeyValue named,
    indented mixedKeyValue named⟩
  exact ⟨by rintro (_ | _ | _) <;> decide, by rintro (_ | _ | _) <;> decide, by decide⟩

end KernelForge
