import KernelForge.Gemm.Document
import KernelForge.Proofs.Cell

/-!
The members of a kernel for matrix products in a document, where all of its formats have names.
-/

namespace KernelForge

theorem Precision.documentName_eq {precision : Precision} (valid : precision.isValid) :
    precision.documentName = .ok precision.name :=
  if_pos valid

namespace Gemm

open Json (Value Dialect)

/-- A format for each matrix. -/
def PerOperand.Valid (precisions : PerOperand Precision) : Prop :=
  ∀ operand, (precisions.get operand).isValid

/-- The names of the formats. -/
def PerOperand.written (precisions : PerOperand Precision) : List (String × Value) :=
  [("a", .text precisions.a.name), ("b", .text precisions.b.name), ("c", .text precisions.c.name)]

theorem PerOperand.precisionMembers_eq {precisions : PerOperand Precision} (valid : precisions.Valid) :
    precisions.precisionMembers = .ok precisions.written := by
  have a : precisions.a.documentName = .ok precisions.a.name := Precision.documentName_eq (valid .a)
  have b : precisions.b.documentName = .ok precisions.b.name := Precision.documentName_eq (valid .b)
  have c : precisions.c.documentName = .ok precisions.c.name := Precision.documentName_eq (valid .c)
  rw [precisionMembers, a, b, c]
  rfl

/-- A bias whose format has a name, or that has none. -/
def Bias.Named (bias : Bias) : Prop :=
  bias.precision = .unset ∨ bias.precision.isValid

instance (bias : Bias) : Decidable bias.Named :=
  inferInstanceAs (Decidable (_ ∨ _))

/-- The names of the axis and the format, where there are any. -/
def Bias.written (bias : Bias) : List (String × Value) :=
  (if bias.axis = .none then [] else Json.member "axis" (.text bias.axis.name)) ++
    if bias.precision = .unset then [] else Json.member "precision" (.text bias.precision.name)

theorem Bias.members_eq {bias : Bias} (named : bias.Named) : bias.members = .ok bias.written := by
  unfold members written
  by_cases unset : bias.precision = .unset
  · rw [if_pos unset, if_pos unset, List.append_nil]
    rfl
  · rw [if_neg unset, if_neg unset, Precision.documentName_eq (named.resolve_left unset)]
    rfl

/-- Another bias cannot be written. -/
theorem Bias.named_of_members {bias : Bias} {members : List (String × Value)} (written : bias.members = .ok members) :
    bias.Named := by
  unfold Bias.members at written
  by_cases unset : bias.precision = .unset
  · exact .inl unset
  · rw [if_neg unset, bind_ok_iff] at written
    obtain ⟨name, found, -⟩ := written
    refine .inr ?_
    by_contra invalid
    rw [Precision.documentName, if_neg invalid] at found
    cases found

/-- The members of a kernel. -/
def Descriptor.written (descriptor : Descriptor) (dialect : Dialect) : List (String × Value) :=
  Json.member "block_dimensions" (.object
      [("m", .natural descriptor.block.m.toNat), ("n", .natural descriptor.block.n.toNat),
        ("k", .natural descriptor.block.k.toNat)]) ++
    Json.optionalObject dialect "leading_block_dimensions"
      (strideMembers descriptor.leading.a.toNat descriptor.leading.b.toNat descriptor.leading.c.toNat) ++
    Json.member "memory_precisions" (.object descriptor.memory.written) ++
    Json.member "register_precisions" (.object descriptor.register.written) ++
    Json.member "splits" (.object
      [("m", .natural descriptor.splits.m.toNat), ("n", .natural descriptor.splits.n.toNat)]) ++
    Json.member "transpose" (.object descriptor.transpose.members) ++
    Json.flagIfSet "prefer_async_load" descriptor.asyncLoad ++
    Json.flagIfSet "prefer_async_store" descriptor.asyncStore ++
    Json.optionalObject dialect "bias" descriptor.bias.written

/-- A kernel all of whose formats have names. -/
structure Descriptor.Named (descriptor : Descriptor) : Prop where
  memory : descriptor.memory.Valid
  register : descriptor.register.Valid
  bias : descriptor.bias.Named

theorem Descriptor.json_eq {descriptor : Descriptor} (named : descriptor.Named) (dialect : Dialect) :
    descriptor.json dialect = .ok (.object (descriptor.written dialect)) := by
  rw [json, PerOperand.precisionMembers_eq named.memory, PerOperand.precisionMembers_eq named.register,
    Bias.members_eq named.bias]
  rfl

end Gemm

end KernelForge
