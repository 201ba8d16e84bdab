import KernelForge.Attention.Document

/-!
The members of an attention kernel in a document, where its pass has a name.
-/

namespace KernelForge.Attention

open Json (Value Dialect)

/-- The members of a kernel type. -/
def KernelType.written (type : KernelType) : List (String × Value) :=
  Json.member "pass" (.text type.pass.name) ++ Json.flagIfSet "secondary" type.secondary

theorem KernelType.json_eq {type : KernelType} (valid : type.pass.isValid) :
    type.json = .ok (.object type.written) := by
  have named : type.pass.documentName = .ok type.pass.name := if_pos valid
  rw [json, named]
  rfl

/-- The members of a kernel. -/
def Descriptor.written (descriptor : Descriptor) : List (String × Value) :=
  Json.member "block_dimensions" (.object
      [("parallelization", .natural descriptor.block.parallelization.toNat),
        ("traversal", .natural descriptor.block.traversal.toNat), ("head", .natural descriptor.block.head.toNat)]) ++
    Json.member "cache_state" (.text descriptor.cache.render) ++
    Json.member "transpose_state" (.text descriptor.transposed.render) ++
    Json.member "memory_precisions" descriptor.memory.json ++
    Json.member "register_precisions" descriptor.register.json ++
    Json.member "head_dimension" (.natural descriptor.head.toNat) ++
    Json.flagIfSet "prefer_async_cache" descriptor.asyncCache ++
    Json.flagIfSet "prefer_async_load" descriptor.asyncLoad ++
    Json.member "type" (.object descriptor.type.written)

theorem Descriptor.json_eq {descriptor : Descriptor} (valid : descriptor.type.pass.isValid) :
    descriptor.json = .ok (.object descriptor.written) := by
  rw [json, KernelType.json_eq valid]
  rfl

end KernelForge.Attention
