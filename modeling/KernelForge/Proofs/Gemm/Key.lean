import KernelForge.Gemm.Source
import KernelForge.Proofs.Gemm.Kernel
import KernelForge.Proofs.Text.Cut

/-!
The key of a matrix product names its program. Everything in a descriptor can be read back from the key, but for the
format of a bias that is not there; and that format is neither checked nor part of the text of the kernel.
-/

namespace KernelForge.Gemm

open Text (Within cut cut_three within_numeral numeral_injective)

theorem within_word (word : UInt16) : Within Char.isDigit (toString word) :=
  within_numeral word.toNat

theorem word_injective {first second : UInt16} (same : toString first = toString second) : first = second :=
  UInt16.toNat_inj.mp (numeral_injective same)

theorem BiasAxis.within_name (axis : BiasAxis) : Within nameCharacter axis.name := by
  unfold name
  split
  · decide
  split
  · decide
  split
  · decide
  · refine Text.within_append.mpr ⟨Text.within_append.mpr ⟨by decide, ?_⟩, by decide⟩
    exact (within_numeral _).mono fun _ => nameCharacter_of_isDigit

theorem BiasAxis.name_injective {first second : BiasAxis} (same : first.name = second.name) : first = second := by
  refine Text.numbered_injective name [none, rows, columns] (·.code.toNat) "BiasAxis(" (by decide) (by decide)
    (by decide) ?_ ?_ same
  · intro axis other
    simp only [List.mem_cons, List.not_mem_nil, or_false, not_or] at other
    simp [name, other]
    rfl
  · rintro ⟨code⟩ ⟨also⟩ equal
    exact congrArg BiasAxis.mk (UInt8.toNat_inj.mp equal)

/-- Two truth values in a row. -/
theorem cut_flags {a b a' b' : Bool} {rest other : List Char}
    (same : (keyFlag a).toList ++ ((keyFlag b).toList ++ rest) =
      (keyFlag a').toList ++ ((keyFlag b').toList ++ other)) :
    (a = a' ∧ b = b') ∧ rest = other := by
  cases a <;> cases b <;> cases a' <;> cases b' <;> simp_all [keyFlag]

/-- The extents of a block. -/
theorem cut_words {a b c a' b' c' : UInt16} {separator : Char} (between : separator.isDigit = false)
    {rest other : List Char} (stops : rest.head?.all (!Char.isDigit ·) = true)
    (ends : other.head?.all (!Char.isDigit ·) = true)
    (same : (toString a).toList ++ separator :: ((toString b).toList ++ separator :: ((toString c).toList ++ rest)) =
      (toString a').toList ++ separator :: ((toString b').toList ++ separator :: ((toString c').toList ++ other))) :
    (a = a' ∧ b = b' ∧ c = c') ∧ rest = other := by
  obtain ⟨⟨first, second, third⟩, same⟩ := cut_three between ⟨within_word a, within_word b, within_word c⟩
    ⟨within_word a', within_word b', within_word c'⟩ stops ends same
  exact ⟨⟨word_injective first, word_injective second, word_injective third⟩, same⟩

/-- The formats of the three matrices. -/
theorem cut_precisions {first second : PerOperand Precision} {rest other : List Char}
    (same : first.a.name.toList ++ '.' :: (first.b.name.toList ++ '.' :: (first.c.name.toList ++ '-' :: rest)) =
      second.a.name.toList ++ '.' :: (second.b.name.toList ++ '.' :: (second.c.name.toList ++ '-' :: other))) :
    first = second ∧ rest = other := by
  obtain ⟨⟨a, b, c⟩, same⟩ := cut_three (by decide)
    ⟨first.a.within_name, first.b.within_name, first.c.within_name⟩
    ⟨second.a.within_name, second.b.within_name, second.c.within_name⟩ rfl rfl same
  refine ⟨?_, (List.cons.inj same).2⟩
  cases first
  cases second
  simp only [PerOperand.mk.injEq]
  exact ⟨Precision.name_injective a, Precision.name_injective b, Precision.name_injective c⟩

/-- The strides, which stand in front of the formats if there are any. -/
theorem cut_leading {first second : PerOperand UInt16} {rest other : List Char}
    (same :
      (if first = ⟨0, 0, 0⟩ then "" else s!"-ld{first.a}.{first.b}.{first.c}").toList ++ '-' :: 'm' :: rest =
        (if second = ⟨0, 0, 0⟩ then "" else s!"-ld{second.a}.{second.b}.{second.c}").toList ++ '-' :: 'm' :: other) :
    first = second ∧ rest = other := by
  by_cases left : first = ⟨0, 0, 0⟩ <;> by_cases right : second = ⟨0, 0, 0⟩
  · rw [if_pos left, if_pos right] at same
    simpa [left, right] using same
  · rw [if_pos left, if_neg right] at same
    simp [Text.toString_self] at same
  · rw [if_neg left, if_pos right] at same
    simp [Text.toString_self] at same
  · rw [if_neg left, if_neg right] at same
    simp only [String.toList_append, Text.toString_self, List.append_assoc, String.reduceToList, List.cons_append,
      List.nil_append, List.cons.injEq, true_and] at same
    obtain ⟨words, same⟩ := cut_words (by decide) rfl rfl same
    refine ⟨?_, by simpa using same⟩
    cases first
    cases second
    simpa only [PerOperand.mk.injEq] using words

/-- The bias, which ends the key if there is one. -/
theorem cut_bias {first second : Bias}
    (same :
      (if first.axis = .none then "" else s!"-bias{first.axis.name}.{first.precision.name}").toList =
        (if second.axis = .none then "" else s!"-bias{second.axis.name}.{second.precision.name}").toList) :
    first = second ∨ first.axis = .none ∧ second.axis = .none := by
  by_cases left : first.axis = .none <;> by_cases right : second.axis = .none
  · exact .inr ⟨left, right⟩
  · rw [if_pos left, if_neg right] at same
    simp [Text.toString_self] at same
  · rw [if_neg left, if_pos right] at same
    simp [Text.toString_self] at same
  · rw [if_neg left, if_neg right] at same
    simp only [String.toList_append, Text.toString_self, List.append_assoc, String.reduceToList, List.cons_append,
      List.nil_append, List.cons.injEq, true_and] at same
    obtain ⟨axis, same⟩ := cut first.axis.within_name second.axis.within_name rfl rfl same
    have precision := String.toList_injective (List.cons.inj same).2
    left
    cases first
    cases second
    simp only [Bias.mk.injEq]
    exact ⟨BiasAxis.name_injective axis, Precision.name_injective precision⟩

/-- Everything but an unused format is in the key. -/
theorem eq_of_key_eq {first second : Descriptor} (same : first.key = second.key) :
    second = { first with bias := second.bias } ∧
      (first.bias = second.bias ∨ first.bias.axis = .none ∧ second.bias.axis = .none) := by
  have text := congrArg String.toList same
  unfold Descriptor.key at text
  simp only [String.toList_append, Text.toString_self, List.append_assoc, String.reduceToList, List.cons_append,
    List.nil_append, List.cons.injEq, true_and] at text
  have optional : ∀ (condition : Prop) [Decidable condition] (a b c : UInt16) (rest : List Char),
      ((if condition then "" else "-ld" ++ toString a ++ "." ++ toString b ++ "." ++ toString c).toList ++
        '-' :: rest).head?.all (!Char.isDigit ·) = true := by
    intro condition _ a b c rest
    split <;> simp
  obtain ⟨block, text⟩ := cut_words (by decide) (optional _ _ _ _ _) (optional _ _ _ _ _) text
  obtain ⟨leading, text⟩ := cut_leading text
  simp only [List.cons.injEq, true_and] at text
  obtain ⟨memory, text⟩ := cut_precisions text
  simp only [List.cons.injEq, true_and] at text
  obtain ⟨register, text⟩ := cut_precisions text
  simp only [List.cons.injEq, true_and] at text
  obtain ⟨rows, text⟩ := cut (within_word _) (within_word _) rfl rfl text
  simp only [List.cons.injEq, true_and] at text
  obtain ⟨columns, text⟩ := cut (within_word _) (within_word _) rfl rfl text
  simp only [List.cons.injEq, true_and] at text
  obtain ⟨transposed, text⟩ := cut_flags text
  simp only [List.cons.injEq, true_and] at text
  obtain ⟨async, text⟩ := cut_flags text
  have bias : first.bias = second.bias ∨ first.bias.axis = .none ∧ second.bias.axis = .none := cut_bias text
  refine ⟨?_, bias⟩
  obtain ⟨⟨m, n, k⟩, _, _, _, ⟨_, _⟩, ⟨_, _⟩, _, _, _⟩ := first
  obtain ⟨⟨m', n', k'⟩, _, _, _, ⟨_, _⟩, ⟨_, _⟩, _, _, _⟩ := second
  simp only [Descriptor.mk.injEq, Block.mk.injEq, Splits.mk.injEq, Transpose.mk.injEq, and_true] at *
  exact ⟨⟨block.1.symm, block.2.1.symm, block.2.2.symm⟩, leading.symm, memory.symm, register.symm,
    ⟨(word_injective rows).symm, (word_injective columns).symm⟩, ⟨transposed.1.symm, transposed.2.symm⟩,
    async.1.symm, async.2.symm⟩

/-- A kernel without a bias has the same program whatever its format would be. -/
theorem program_of_no_bias (kernel : Kernel) (bias : Bias) (absent : kernel.descriptor.bias.axis = .none)
    (without : bias.axis = .none) :
    ({ kernel with descriptor := { kernel.descriptor with bias } } : Kernel).program = kernel.program := by
  have arguments : ({ kernel with descriptor := { kernel.descriptor with bias } } : Kernel).arguments =
      kernel.arguments := by
    unfold Kernel.arguments
    rw [if_pos without, if_pos absent]
    rfl
  have added : ({ kernel with descriptor := { kernel.descriptor with bias } } : Kernel).addBias = kernel.addBias := by
    unfold Kernel.addBias
    rw [if_pos without, if_pos absent]
  have body : ({ kernel with descriptor := { kernel.descriptor with bias } } : Kernel).functionBody =
      kernel.functionBody := by
    unfold Kernel.functionBody
    rw [added]
    rfl
  unfold Kernel.program Kernel.source Kernel.statements
  rw [arguments, body]
  rfl

theorem ofDescriptor_of_no_bias (descriptor : Descriptor) (bias : Bias) (absent : descriptor.bias.axis = .none)
    (without : bias.axis = .none) :
    Kernel.ofDescriptor { descriptor with bias } =
      (Kernel.ofDescriptor descriptor).map fun kernel =>
        { kernel with descriptor := { kernel.descriptor with bias } } := by
  have free : descriptor.checkBias = .ok () := if_pos absent
  have alike : ({ descriptor with bias } : Descriptor).checkBias = .ok () := if_pos without
  unfold Kernel.ofDescriptor
  simp only [free, alike, map_of_bind, apply_ite (Except.map _)]
  rfl

theorem generate_of_key {first second : Descriptor} (same : first.key = second.key) :
    generate first = generate second := by
  obtain ⟨others, equal | ⟨absent, without⟩⟩ := eq_of_key_eq same
  · rw [others, ← equal]
  · rw [others]
    unfold generate
    rw [ofDescriptor_of_no_bias first second.bias absent without]
    cases made : Kernel.ofDescriptor first with
    | error defect => rfl
    | ok kernel =>
      have kept : kernel.descriptor.bias.axis = .none := by
        rw [(accepted_of_ofDescriptor made).descriptor_eq]
        exact absent
      exact congrArg Except.ok (program_of_no_bias kernel second.bias kept without).symm

/-- A product without a bias. -/
def unbiasedProduct : Descriptor where
  block := ⟨32, 32, 8⟩
  memory := ⟨.fp16, .fp16, .fp16⟩
  register := ⟨.fp16, .fp16, .fp32⟩
  splits := ⟨1, 1⟩

/-- The same, with a format for the bias that is not there. -/
def preparedProduct : Descriptor :=
  { unbiasedProduct with bias := ⟨.none, .bf16⟩ }

end KernelForge.Gemm
