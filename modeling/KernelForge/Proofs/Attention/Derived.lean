import KernelForge.Attention.Source.Layout
import KernelForge.Proofs.Attention.Emission
import KernelForge.Proofs.Attention.Heuristic
import KernelForge.Proofs.Gemm.Derived
import Mathlib.Order.Bounds.Basic

/-!
What comes of a descriptor of an attention kernel, whatever its fields are: a kernel or an announced refusal. No
quantity of a kernel wraps, although two of them are computed in 16 bits without a guard. A head dimension that wraps
when it is filled up leaves nothing, and no block is as small as that; and the memory of a threadgroup bounds the rows
that it owns, since in every pass it stages a matrix that runs along them.
-/

namespace KernelForge.Attention

/-- Every member of a set is one of another. -/
def OperandSet.Subset (first second : OperandSet) : Prop :=
  first.inter second = first

theorem OperandSet.inter_subset_right (first second : OperandSet) : (first.inter second).Subset second := by
  simp only [Subset, inter, UInt16.and_assoc, UInt16.and_self]

theorem OperandSet.inter_subset_of_subset {first second other : OperandSet} (inside : first.Subset other) :
    (first.inter second).Subset other := by
  have kept : first.bits &&& other.bits = first.bits := congrArg bits inside
  simp only [Subset, inter, UInt16.and_assoc]
  rw [UInt16.and_comm second.bits, ← UInt16.and_assoc, kept]

/-- Every failure is a refusal. -/
theorem KernelDefect.kind_mem (defect : KernelDefect) : defect.failure.kind ∈ refusals := by
  cases defect with
  | pair operand defect =>
    rw [failure, Failure.kind_within]
    exact defect.kind_mem
  | _ => simp [failure, Failure.of, Failure.within, refusals]

/-! ### What was checked -/

/-- What a kernel derives from the numbers of its descriptor, in 16 bits. -/
structure Resources (descriptor : Descriptor) (kernel : Kernel) : Prop where
  enough : descriptor.requiredMemory ≤ maxThreadgroupMemory
  paddedHead : kernel.paddedHead = Attention.paddedHead descriptor.head
  threadgroupMemory : kernel.threadgroupMemory = UInt16.ofNat descriptor.requiredMemory
  threadgroupSize : kernel.threadgroupSize = 32 * (descriptor.block.parallelization / 8)

theorem sound_of_ofDescriptor {descriptor : Descriptor} {kernel : Kernel}
    (made : Kernel.ofDescriptor descriptor = .ok kernel) : descriptor.Sound ∧ Resources descriptor kernel := by
  unfold Kernel.ofDescriptor at made
  simp only [refuse_ok_iff, bind_ok_iff, Bool.not_eq_true', Bool.not_eq_false, Bool.or_eq_true, decide_eq_true_eq,
    not_or, ne_eq, not_not, pure, Except.pure, Except.ok.injEq] at made
  obtain ⟨pass, head, ⟨⟨parallelization, traversal⟩, headBlock⟩, _, assigned, _, registers,
    ⟨⟨eightParallelization, eightTraversal⟩, eightHead⟩, fits, _, pairs, _, accumulators, enough, rfl⟩ := made
  refine ⟨?_, ?_⟩
  · exact {
      pass
      head
      parallelization
      traversal
      eightParallelization
      eightTraversal
      headBlock := ⟨headBlock, eightHead, UInt16.not_lt.mp fits⟩
      assigned := fun _ => Descriptor.check_of_checkEach assigned
      registers := fun _ => Descriptor.check_of_checkEach registers
      pairs := fun _ => Descriptor.check_of_checkEach pairs
      accumulators := fun _ => Descriptor.check_of_checkEach accumulators }
  · exact ⟨Nat.not_lt.mp enough, rfl, rfl, rfl⟩

/-! ### The head dimension -/

theorem eight_dvd_of_mod {word : UInt16} (eight : word % 8 = 0) : 8 ∣ word.toNat := by
  have remainder : word.toNat % 8 = 0 := congrArg UInt16.toNat eight
  exact Nat.dvd_of_mod_eq_zero remainder

namespace HeadBlock

variable {head block : UInt16} (fitting : HeadBlock head block)

include fitting

/-- No block fits a head dimension that wraps when it is filled up. -/
theorem head_le : head ≤ 65528 := by
  by_contra long
  have none := fitting.fits
  rw [paddedHead_eq_zero (UInt16.not_le.mp long), UInt16.le_iff_toNat_le, UInt16.toNat_zero] at none
  exact fitting.positive (UInt16.toNat_inj.mp (Nat.le_zero.mp none))

theorem toNat_paddedHead : (paddedHead head).toNat = 8 * ((head.toNat + 7) / 8) := by
  rw [Attention.toNat_paddedHead fitting.head_le, Nat.mul_comm]

/-- A part of a block is not filled up beyond it. -/
theorem toNat_paddedHead_part {part : UInt16} (within : part ≤ block) :
    (paddedHead part).toNat = 8 * ((part.toNat + 7) / 8) ∧ (paddedHead part).toNat ≤ block.toNat := by
  obtain ⟨count, whole⟩ := eight_dvd_of_mod fitting.eight
  have below := fitting.fits
  have short := fitting.head_le
  rw [UInt16.le_iff_toNat_le] at within below short
  rw [fitting.toNat_paddedHead] at below
  have limit : (65528 : UInt16).toNat = 65528 := rfl
  rw [limit] at short
  have partShort : part ≤ 65528 := by
    rw [UInt16.le_iff_toNat_le, limit]
    omega
  rw [Attention.toNat_paddedHead partShort]
  omega

end HeadBlock

/-- The columns of the head dimension in its last block. -/
def Descriptor.lastColumns (descriptor : Descriptor) : UInt16 :=
  if descriptor.head % descriptor.block.head = 0 then descriptor.block.head
  else descriptor.head % descriptor.block.head

theorem Descriptor.lastColumns_le {descriptor : Descriptor} (some : descriptor.block.head ≠ 0) :
    descriptor.lastColumns ≤ descriptor.block.head := by
  unfold lastColumns
  split
  · exact UInt16.le_refl _
  · rw [UInt16.le_iff_toNat_le, UInt16.toNat_mod]
    exact Nat.le_of_lt (Nat.mod_lt _ (Gemm.toNat_pos_of_ne_zero some))

/-! ### The memory of a threadgroup -/

/-- An operand that is staged a block at a time. -/
structure Descriptor.Stages (descriptor : Descriptor) (operand : Operand) : Prop where
  bound : descriptor.type.operands.contains operand = true
  matrix : operand ∉ [Operand.l, .d, .dST]

/-- The sizes of what the phases of a kernel stage: blocks of the matrices, the last columns of the output and its
    derivative for the row term, and slices of the row terms along the traversal. -/
inductive Descriptor.Staged (descriptor : Descriptor) : Nat → Prop
  | parallel (operand : Operand) (staged : descriptor.Stages operand) (along : descriptor.isParallel operand = true) :
    Staged descriptor (descriptor.block.parallelization.toNat * descriptor.block.head.toNat *
      (descriptor.memory.get operand).size)
  | traversal (operand : Operand) (staged : descriptor.Stages operand)
    (across : descriptor.isParallel operand = false) :
    Staged descriptor (descriptor.block.traversal.toNat * descriptor.block.head.toNat *
      (descriptor.memory.get operand).size)
  | edge (pass : descriptor.type.pass = .backwardQuery) :
    Staged descriptor (descriptor.block.parallelization.toNat * 8 *
      ((descriptor.memory.get .dO).size + (descriptor.memory.get .o).size))
  | slice (operand : Operand) (pass : descriptor.type.pass = .backwardKeyValue) (term : operand ∈ [Operand.l, .d]) :
    Staged descriptor (descriptor.block.traversal.toNat * (descriptor.memory.get operand).size)

/-- The largest of the numbers of a list. -/
theorem isGreatest_foldl_max {numbers : List Nat} {listed : Nat → Prop}
    (same : ∀ number, number ∈ numbers ↔ listed number) (some : ∃ number, listed number) :
    IsGreatest {number | listed number} (numbers.foldl max 0) := by
  obtain ⟨number, member⟩ := some
  have filled : numbers ≠ [] := List.ne_nil_of_mem ((same number).mpr member)
  obtain ⟨greatest, found⟩ := Option.isSome_iff_exists.mp (List.isSome_max?_iff.mpr filled)
  obtain ⟨attained, bounds⟩ := List.max?_eq_some_iff.mp found
  rw [List.foldl_max, found, Option.getD_some, Nat.zero_max]
  exact ⟨(same greatest).mp attained, fun other within => bounds other ((same other).mpr within)⟩

namespace Descriptor

variable {descriptor : Descriptor}

theorem staged_stagedBytes {operand : Operand} (staged : descriptor.Stages operand) :
    descriptor.Staged (descriptor.stagedBytes operand) := by
  unfold stagedBytes blockSequence
  cases along : descriptor.isParallel operand with
  | true => exact .parallel operand staged along
  | false => exact .traversal operand staged along

/-- Every pass stages a matrix that runs along the rows of its threadgroups. -/
theorem exists_parallel (valid : descriptor.type.pass.isValid = true) :
    ∃ operand, descriptor.Stages operand ∧ descriptor.isParallel operand = true := by
  have each : ∀ type ∈ KernelType.all, ∃ operand ∈ Operand.all, type.operands.contains operand = true ∧
      operand ∉ [Operand.l, .d, .dST] ∧ (operand.isRowIndexed != (type.pass = .backwardKeyValue)) = true := by decide
  obtain ⟨operand, -, bound, matrix, along⟩ := each _ (KernelType.mem_all valid)
  exact ⟨operand, ⟨bound, matrix⟩, along⟩

theorem isGreatest_requiredMemory (valid : descriptor.type.pass.isValid = true) :
    IsGreatest {bytes | descriptor.Staged bytes} descriptor.requiredMemory := by
  obtain ⟨operand, stages, -⟩ := exists_parallel valid
  refine isGreatest_foldl_max (fun bytes => ?_) ⟨_, staged_stagedBytes stages⟩
  simp only [List.mem_append, List.mem_map, List.mem_filter, OperandSet.mem_toList, Bool.and_eq_true, decide_eq_true_eq]
  constructor
  · rintro ((⟨operand, ⟨bound, ⟨logarithms, terms⟩, scores⟩, rfl⟩ | edge) | slice)
    · exact staged_stagedBytes ⟨bound, by simp [logarithms, terms, scores]⟩
    · split at edge
      · rename_i pass
        rw [List.mem_singleton.mp edge]
        exact .edge pass
      · cases edge
    · split at slice
      · rename_i pass
        rcases List.mem_pair.mp slice with rfl | rfl
        · exact .slice .l pass (by decide)
        · exact .slice .d pass (by decide)
      · cases slice
  · rintro (⟨operand, stages, along⟩ | ⟨operand, stages, across⟩ | pass | ⟨operand, pass, term⟩)
    · refine .inl (.inl ⟨operand, ⟨stages.bound, ?_⟩, ?_⟩)
      · simpa [and_assoc] using stages.matrix
      · simp [stagedBytes, blockSequence, along]
    · refine .inl (.inl ⟨operand, ⟨stages.bound, ?_⟩, ?_⟩)
      · simpa [and_assoc] using stages.matrix
      · simp [stagedBytes, blockSequence, across]
    · exact .inl (.inr (by simp [pass]))
    · refine .inr ?_
      rcases List.mem_pair.mp term with rfl | rfl
      · simp [pass]
      · simp [pass]

end Descriptor

/-! ### The kernel -/

/-- The quantities of a kernel are those of unbounded arithmetic. -/
structure Exact (descriptor : Descriptor) (kernel : Kernel) : Prop where
  paddedHead : kernel.paddedHead.toNat = 8 * ((descriptor.head.toNat + 7) / 8)
  headBlock : 0 < descriptor.block.head.toNat ∧ 8 ∣ descriptor.block.head.toNat ∧
    descriptor.block.head.toNat ≤ kernel.paddedHead.toNat
  headEdge : kernel.paddedHeadEdge.toNat = 8 * ((descriptor.lastColumns.toNat + 7) / 8) ∧
    kernel.paddedHeadEdge.toNat ≤ descriptor.block.head.toNat
  threads : kernel.threadgroupSize.toNat = 4 * descriptor.block.parallelization.toNat
  memory : IsGreatest {bytes | descriptor.Staged bytes} kernel.threadgroupMemory.toNat
  parallel : ∀ operand, descriptor.Stages operand → descriptor.isParallel operand = true →
    descriptor.block.parallelization.toNat * descriptor.block.head.toNat * (descriptor.memory.get operand).size ≤
      kernel.threadgroupMemory.toNat
  traversal : ∀ operand, descriptor.Stages operand → descriptor.isParallel operand = false →
    descriptor.block.traversal.toNat * descriptor.block.head.toNat * (descriptor.memory.get operand).size ≤
      kernel.threadgroupMemory.toNat
  fits : kernel.threadgroupMemory.toNat ≤ 32768
  operands : kernel.operands = descriptor.type.operands
  cached : kernel.cached.Subset kernel.operands ∧ kernel.cached.Subset descriptor.type.pass.cacheable

/-- The rows of a threadgroup are as few as its memory allows, so its threads can be counted in 16 bits. -/
theorem threads_of_sound {descriptor : Descriptor} (sound : descriptor.Sound)
    (enough : descriptor.requiredMemory ≤ maxThreadgroupMemory) :
    (32 * (descriptor.block.parallelization / 8)).toNat = 4 * descriptor.block.parallelization.toNat := by
  obtain ⟨operand, stages, along⟩ := Descriptor.exists_parallel sound.pass
  have pair := Gemm.Precision.size_pos_of_checkPair
    (mapError_ok.mp (sound.pairs operand (OperandSet.mem_toList.mpr stages.bound)))
  have tile : 8 ≤ descriptor.block.head.toNat :=
    Nat.le_of_dvd (Gemm.toNat_pos_of_ne_zero sound.headBlock.positive) (eight_dvd_of_mod sound.headBlock.eight)
  have short : descriptor.block.parallelization.toNat * 8 ≤ 32768 :=
    calc descriptor.block.parallelization.toNat * 8
        ≤ descriptor.block.parallelization.toNat * descriptor.block.head.toNat := Nat.mul_le_mul_left _ tile
      _ ≤ descriptor.block.parallelization.toNat * descriptor.block.head.toNat *
          (descriptor.memory.get operand).size := Nat.le_mul_of_pos_right _ pair
      _ ≤ descriptor.requiredMemory :=
        (Descriptor.isGreatest_requiredMemory sound.pass).2 (.parallel operand stages along)
      _ ≤ 32768 := enough
  obtain ⟨count, whole⟩ := eight_dvd_of_mod sound.eightParallelization
  simp only [UInt16.toNat_mul, UInt16.toNat_div, UInt16.reduceToNat]
  omega

theorem exact_of_ofDescriptor {descriptor : Descriptor} {kernel : Kernel}
    (made : Kernel.ofDescriptor descriptor = .ok kernel) : Exact descriptor kernel := by
  obtain ⟨sound, resources⟩ := sound_of_ofDescriptor made
  obtain ⟨-, -, -, -, same, operands, cached⟩ := made_of_ofDescriptor made
  have memory : kernel.threadgroupMemory.toNat = descriptor.requiredMemory := by
    rw [resources.threadgroupMemory]
    exact UInt16.toNat_ofNat_of_lt' (Nat.lt_of_le_of_lt resources.enough (by decide))
  have greatest : IsGreatest {bytes | descriptor.Staged bytes} kernel.threadgroupMemory.toNat := by
    rw [memory]
    exact Descriptor.isGreatest_requiredMemory sound.pass
  have edge : kernel.paddedHeadEdge = Attention.paddedHead descriptor.lastColumns := by
    rw [Kernel.paddedHeadEdge, same]
    rfl
  exact {
    paddedHead := by rw [resources.paddedHead, sound.headBlock.toNat_paddedHead]
    headBlock := by
      refine ⟨Gemm.toNat_pos_of_ne_zero sound.headBlock.positive, eight_dvd_of_mod sound.headBlock.eight, ?_⟩
      rw [resources.paddedHead]
      exact UInt16.le_iff_toNat_le.mp sound.headBlock.fits
    headEdge := by
      rw [edge]
      exact sound.headBlock.toNat_paddedHead_part (Descriptor.lastColumns_le sound.headBlock.positive)
    threads := by rw [resources.threadgroupSize, threads_of_sound sound resources.enough]
    memory := greatest
    parallel := fun operand stages along => greatest.2 (.parallel operand stages along)
    traversal := fun operand stages across => greatest.2 (.traversal operand stages across)
    fits := memory ▸ resources.enough
    operands
    cached := by
      rw [cached, operands]
      exact ⟨OperandSet.inter_subset_of_subset (OperandSet.inter_subset_right _ _), OperandSet.inter_subset_right _ _⟩ }

/-- Every descriptor gives a kernel whose quantities are exact, or it is refused. -/
theorem ofDescriptor_exact (descriptor : Descriptor) :
    (∃ kernel, Kernel.ofDescriptor descriptor = .ok kernel ∧ Exact descriptor kernel) ∨
      ∃ defect, Kernel.ofDescriptor descriptor = .error defect ∧ defect.failure.kind ∈ refusals := by
  cases outcome : Kernel.ofDescriptor descriptor with
  | ok kernel => exact .inl ⟨kernel, rfl, exact_of_ofDescriptor outcome⟩
  | error defect => exact .inr ⟨defect, rfl, defect.kind_mem⟩

/-- The longest head dimension that can be filled up, and the most rows that fit the memory in half precision. -/
def longestForward : Descriptor where
  block := ⟨2048, 8, 8⟩
  memory := Precisions.unset.setAll Operand.all .fp16
  register := Precisions.unset.setAll Operand.all .fp32
  head := 65528
  type := ⟨.forward, true⟩

theorem ofDescriptor_exact_longest : ∃ kernel, Kernel.ofDescriptor longestForward = .ok kernel ∧
    Exact longestForward kernel ∧ kernel.threadgroupMemory = 32768 ∧ kernel.threadgroupSize = 8192 := by
  obtain ⟨kernel, made, memory, size⟩ : ∃ kernel, Kernel.ofDescriptor longestForward = .ok kernel ∧
      kernel.threadgroupMemory = 32768 ∧ kernel.threadgroupSize = 8192 := ⟨_, rfl, rfl, rfl⟩
  obtain ⟨other, accepted, exact⟩ | ⟨defect, refused, -⟩ := ofDescriptor_exact longestForward
  · obtain rfl : kernel = other := Except.ok.inj (made.symm.trans accepted)
    exact ⟨kernel, made, exact, memory, size⟩
  · cases made.symm.trans refused

end KernelForge.Attention
