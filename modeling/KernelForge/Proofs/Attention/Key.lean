import KernelForge.Attention.Kernel
import KernelForge.Proofs.Gemm.Key

/-!
What the key of an attention kernel says about its descriptor. Two descriptors with one key agree on everything that a
kernel of their type uses: block, head dimension, the members that they keep or transpose among the bound operands, and
the formats of the operands that are bound or computed in registers. Only kernels of no pass share a key and differ in
more than that.
-/

namespace KernelForge.Attention

open Text (Within cut joined_injective)

namespace OperandSet

/-- Membership is a bit. -/
theorem contains_eq_getLsbD (set : OperandSet) (operand : Operand) :
    set.contains operand = set.bits.toBitVec.getLsbD operand.index.val := by
  have bit : (bitOf (UInt8.ofNat operand.index)).toBitVec = BitVec.twoPow 16 operand.index.val := by
    cases operand <;> rfl
  unfold contains hasCode
  rw [Bool.eq_iff_iff, decide_eq_true_iff, ne_eq, ← UInt16.toBitVec_inj, UInt16.toBitVec_and, bit, BitVec.and_twoPow]
  have nonzero : BitVec.twoPow 16 operand.index.val ≠ 0#16 := by cases operand <;> decide
  by_cases member : set.bits.toBitVec.getLsbD operand.index.val = true
  · rw [if_pos member]
    simpa [nonzero] using member
  · rw [if_neg member]
    simpa using member

@[simp]
theorem contains_inter (first second : OperandSet) (operand : Operand) :
    (first.inter second).contains operand = (first.contains operand && second.contains operand) := by
  simp [contains_eq_getLsbD, inter]

@[simp]
theorem contains_union (first second : OperandSet) (operand : Operand) :
    (first.union second).contains operand = (first.contains operand || second.contains operand) := by
  simp [contains_eq_getLsbD, union]

@[simp]
theorem mem_toList {set : OperandSet} {operand : Operand} : operand ∈ set.toList ↔ set.contains operand = true := by
  have listed : operand ∈ Operand.inBindingOrder := by cases operand <;> decide
  simp [toList, listed]

end OperandSet

theorem Operand.name_injective {first second : Operand} (same : first.name = second.name) : first = second := by
  have found : ∀ operand : Operand, Operand.all.find? (·.name = operand.name) = some operand := by
    intro operand
    cases operand <;> decide
  have twice := found first
  rw [same, found second] at twice
  exact (Option.some.inj twice).symm

theorem Operand.within_name (operand : Operand) : Within nameCharacter operand.name := by
  cases operand <;> decide

theorem OperandSet.within_render (set : OperandSet) : Within (· ≠ ']') set.render := by
  refine Text.within_joined (by decide) ?_
  intro text member
  obtain ⟨operand, -, rfl⟩ := List.mem_map.mp member
  exact operand.within_name.ne (by decide)

/-- The text of a set tells its members. -/
theorem OperandSet.contains_of_render {first second : OperandSet} (same : first.render = second.render)
    (operand : Operand) : first.contains operand = second.contains operand := by
  have plain : ∀ set : OperandSet, ∀ text ∈ set.toList.map Operand.name, text ≠ "" ∧ ',' ∉ text.toList := by
    intro set text member
    obtain ⟨operand, -, rfl⟩ := List.mem_map.mp member
    cases operand <;> decide
  have names := joined_injective (plain first) (plain second) same
  have members : first.toList = second.toList := (List.map_inj_right fun _ _ => Operand.name_injective).mp names
  rw [Bool.eq_iff_iff, ← mem_toList, ← mem_toList, members]

theorem within_operand_precision (operand : Operand) (precision : Precision) :
    Within nameCharacter (operand.name ++ precision.name) :=
  Text.within_append.mpr ⟨operand.within_name, precision.within_name⟩

theorem within_precisionsKey (set : OperandSet) (precisions : Precisions) :
    Within (· ≠ '-') (precisionsKey set precisions) := by
  refine Text.within_joined (by decide) ?_
  intro text member
  obtain ⟨operand, -, rfl⟩ := List.mem_map.mp member
  exact (within_operand_precision _ _).ne (by decide)

theorem precision_of_precisionsKey {set : OperandSet} {first second : Precisions}
    (same : precisionsKey set first = precisionsKey set second) {operand : Operand}
    (member : set.contains operand = true) : first.get operand = second.get operand := by
  have plain : ∀ precisions : Precisions,
      ∀ text ∈ set.toList.map fun operand => operand.name ++ (precisions.get operand).name,
        text ≠ "" ∧ '.' ∉ text.toList := by
    intro precisions text member
    obtain ⟨operand, -, rfl⟩ := List.mem_map.mp member
    refine ⟨?_, (within_operand_precision _ _).not_mem (by decide)⟩
    have named : operand.name ≠ "" := by cases operand <;> decide
    simp [named]
  have names := joined_injective (plain first) (plain second) same
  have equal := List.map_inj_left.mp names operand (OperandSet.mem_toList.mpr member)
  exact Precision.name_injective ((String.append_right_inj _).mp equal)

namespace KernelType

/-- The types of kernels. -/
def all : List KernelType :=
  Pass.all.flatMap fun pass => [⟨pass, false⟩, ⟨pass, true⟩]

theorem mem_all {type : KernelType} (valid : type.pass.isValid = true) : type ∈ all := by
  obtain ⟨⟨code⟩, secondary⟩ := type
  simp only [Pass.isValid, Bool.and_eq_true, decide_eq_true_eq] at valid
  have cases : code = 1 ∨ code = 2 ∨ code = 3 := by
    simp only [← UInt8.toNat_inj, UInt8.le_iff_toNat_le] at valid ⊢
    simp at valid ⊢
    omega
  rcases cases with rfl | rfl | rfl <;> cases secondary <;> decide

theorem name_of_invalid {type : KernelType} (invalid : type.pass.isValid = false) : type.name = "unset" := by
  have other : ∀ pass : Pass, pass.isValid = true → type.pass ≠ pass := by
    rintro pass valid rfl
    rw [valid] at invalid
    cases invalid
  simp [name, Pass.name, other .forward rfl, other .backwardQuery rfl, other .backwardKeyValue rfl]

theorem within_name (type : KernelType) : Within (!Char.isDigit ·) type.name := by
  cases valid : type.pass.isValid with
  | true => exact (by decide : ∀ type ∈ all, Within (!Char.isDigit ·) type.name) type (mem_all valid)
  | false =>
    rw [name_of_invalid valid]
    decide

/-- The name tells the type, unless it is none. -/
theorem eq_of_name {first second : KernelType} (same : first.name = second.name) :
    first = second ∨ first.pass.isValid = false ∧ second.pass.isValid = false := by
  have known : ∀ type ∈ all, type.name ≠ "unset" := by decide
  have apart : ∀ type ∈ all, ∀ other ∈ all, type.name = other.name → type = other := by decide
  cases left : first.pass.isValid with
  | true =>
    cases right : second.pass.isValid with
    | true => exact .inl (apart first (mem_all left) second (mem_all right) same)
    | false => exact absurd (same.trans (name_of_invalid right)) (known first (mem_all left))
  | false =>
    cases right : second.pass.isValid with
    | true => exact absurd (same.symm.trans (name_of_invalid left)) (known second (mem_all right))
    | false => exact .inr ⟨rfl, rfl⟩

end KernelType

/-- Two descriptors agree on everything that a kernel of their type uses. -/
structure Descriptor.Alike (first second : Descriptor) : Prop where
  block : first.block = second.block
  head : first.head = second.head
  type : first.type = second.type
  asyncCache : first.asyncCache = second.asyncCache
  asyncLoad : first.asyncLoad = second.asyncLoad
  cache : ∀ operand, second.type.operands.contains operand = true →
    first.cache.contains operand = second.cache.contains operand
  transposed : ∀ operand, second.type.operands.contains operand = true →
    first.transposed.contains operand = second.transposed.contains operand
  memory : ∀ operand, second.type.operands.contains operand = true →
    first.memory.get operand = second.memory.get operand
  register : ∀ operand, (second.type.operands.union second.type.registers).contains operand = true →
    first.register.get operand = second.register.get operand

/-- Descriptors with one key are alike, or belong to no pass. -/
theorem alike_of_key {first second : Descriptor} (same : first.key = second.key) :
    first.Alike second ∨ first.type.pass.isValid = false ∧ second.type.pass.isValid = false := by
  have text := congrArg String.toList same
  unfold Descriptor.key at text
  simp only [String.toList_append, Text.toString_self, List.append_assoc, String.reduceToList, List.cons_append,
    List.nil_append, List.cons.injEq, true_and] at text
  -- The name of the type goes as far as the first digit.
  have named : ∀ (type : KernelType) (rest : List Char),
      type.name.toList ++ '-' :: 'd' :: rest = (type.name ++ "-d").toList ++ rest := by
    intro type rest
    simp
  have letters : ∀ type : KernelType, Within (!Char.isDigit ·) (type.name ++ "-d") := fun type =>
    Text.within_append.mpr ⟨type.within_name, by decide⟩
  have digit : ∀ (head : UInt16) (rest : List Char),
      ((toString head).toList ++ rest).head?.all (fun character => !!character.isDigit) = true := by
    intro head rest
    simp only [Bool.not_not]
    exact Text.head?_numeral_append head.toNat rest
  rw [named, named] at text
  obtain ⟨name, text⟩ := cut (letters _) (letters _) (digit _ _) (digit _ _) text
  rcases KernelType.eq_of_name ((String.append_left_inj _).mp name) with type | invalid
  · left
    obtain ⟨head, text⟩ := cut (Gemm.within_word _) (Gemm.within_word _) rfl rfl text
    simp only [List.cons.injEq, true_and] at text
    obtain ⟨block, text⟩ := Gemm.cut_words (by decide) rfl rfl text
    simp only [List.cons.injEq, true_and] at text
    obtain ⟨cache, text⟩ := cut (OperandSet.within_render _) (OperandSet.within_render _) rfl rfl text
    simp only [List.cons.injEq, true_and] at text
    obtain ⟨transposed, text⟩ := cut (OperandSet.within_render _) (OperandSet.within_render _) rfl rfl text
    simp only [List.cons.injEq, true_and] at text
    obtain ⟨memory, text⟩ := cut (within_precisionsKey _ _) (within_precisionsKey _ _) rfl rfl text
    simp only [List.cons.injEq, true_and] at text
    obtain ⟨register, text⟩ := cut (within_precisionsKey _ _) (within_precisionsKey _ _) rfl rfl text
    simp only [List.cons.injEq, true_and] at text
    rw [← List.append_nil (Descriptor.keyFlag first.asyncLoad).toList,
      ← List.append_nil (Descriptor.keyFlag second.asyncLoad).toList] at text
    obtain ⟨async, -⟩ := Gemm.cut_flags text
    rw [type] at cache transposed memory register
    refine ⟨?_, Gemm.word_injective head, type, async.1, async.2, ?_, ?_, ?_, ?_⟩
    · obtain ⟨⟨_, _, _⟩, _⟩ := first
      obtain ⟨⟨_, _, _⟩, _⟩ := second
      simpa only [Block.mk.injEq] using block
    · intro operand bound
      simpa [bound] using OperandSet.contains_of_render cache operand
    · intro operand bound
      simpa [bound] using OperandSet.contains_of_render transposed operand
    · intro operand bound
      exact precision_of_precisionsKey memory bound
    · intro operand bound
      exact precision_of_precisionsKey register bound
  · exact .inr invalid

end KernelForge.Attention
