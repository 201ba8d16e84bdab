import KernelForge.Attention.Heuristic
import KernelForge.Proofs.Attention.Buffers
import KernelForge.Proofs.Attention.Key
import KernelForge.Proofs.Tuning.Selection

/-!
What becomes of an attention kernel that the heuristics choose from validated tables. The row that applies to a head
dimension always exists, and the formats, the accumulators and the block fit together whatever the problem asks for. Two
things are left that can stand in the way: a row may name an operand that its pass cannot keep, which the choice itself
reports, and the block may need more memory than a threadgroup has. The built-in tables run into neither.

Head dimensions above 65528 are apart. Filled up to a multiple of eight they do not fit 16 bits, the filled up dimension
is zero, and so is the part of it that a block takes; the kernel is then refused as one without a block.
-/

namespace KernelForge

theorem Precision.size_le (precision : Precision) : precision.size ≤ 4 := by
  unfold size
  split
  · exact Nat.le_refl 4
  · split <;> decide

theorem toNat_min (first second : UInt16) : (min first second).toNat = min first.toNat second.toNat := by
  by_cases ordered : first ≤ second
  · have lower : min first second = first := if_pos ordered
    rw [lower, Nat.min_eq_left (UInt16.le_iff_toNat_le.mp ordered)]
  · have lower : min first second = second := if_neg ordered
    rw [lower, Nat.min_eq_right (Nat.le_of_lt (UInt16.lt_iff_toNat_lt.mp (UInt16.not_le.mp ordered)))]

end KernelForge

namespace KernelForge.Tuning

/-- A row whose block is not empty and made of tiles of eight. -/
structure Row.Tiled (row : Row) : Prop where
  parallelization : row.parallelization ≠ 0
  traversal : row.traversal ≠ 0
  head : row.head ≠ 0
  eightParallelization : row.parallelization % 8 = 0
  eightTraversal : row.traversal % 8 = 0
  eightHead : row.head % 8 = 0

/-- A row whose blocks fit the memory of a threadgroup in every format. -/
structure Row.Compact (row : Row) : Prop where
  parallelBlock : row.parallelization.toNat * row.head.toNat ≤ 8192
  traversalBlock : row.traversal.toNat * row.head.toNat ≤ 8192
  parallelization : row.parallelization.toNat ≤ 512
  traversal : row.traversal.toNat ≤ 8192

instance (row : Row) : Decidable row.Compact :=
  decidable_of_iff (row.parallelization.toNat * row.head.toNat ≤ 8192 ∧
      row.traversal.toNat * row.head.toNat ≤ 8192 ∧ row.parallelization.toNat ≤ 512 ∧ row.traversal.toNat ≤ 8192)
    ⟨fun ⟨first, second, third, fourth⟩ => ⟨first, second, third, fourth⟩,
      fun ⟨first, second, third, fourth⟩ => ⟨first, second, third, fourth⟩⟩

/-- A table that has an answer for every head dimension, and only usable ones. -/
structure Usable (rows : List Row) : Prop where
  filled : rows ≠ []
  tiled : ∀ row ∈ rows, row.Tiled

theorem tiled_of_rowFindings {table : String} {index : Nat} {previous : Option Row} {row : Row}
    (silent : rowFindings table index previous row = []) : row.Tiled := by
  obtain ⟨block, -⟩ := List.append_eq_nil_iff.mp silent
  split at block
  · cases block
  · rename_i positive
    split at block
    · cases block
    · rename_i tiled
      simp only [Row.isPositive, Row.isTiled, Bool.not_eq_true', Bool.not_eq_false, Bool.and_eq_true,
        decide_eq_true_eq] at positive tiled
      obtain ⟨⟨parallelization, traversal⟩, head⟩ := positive
      obtain ⟨⟨eightParallelization, eightTraversal⟩, eightHead⟩ := tiled
      exact ⟨parallelization, traversal, head, eightParallelization, eightTraversal, eightHead⟩

theorem tiled_of_rowsFindings {table : String} {rows : List Row} {index : Nat} {previous : Option Row}
    (silent : rowsFindings table index previous rows = []) : ∀ row ∈ rows, row.Tiled := by
  induction rows generalizing index previous with
  | nil => simp
  | cons first rest ih =>
    obtain ⟨head, tail⟩ := List.append_eq_nil_iff.mp silent
    intro row member
    rcases List.mem_cons.mp member with rfl | later
    · exact tiled_of_rowFindings head
    · exact ih tail row later

theorem usable_of_tableFindings {table : String} {rows : List Row} (silent : tableFindings table rows = []) :
    Usable rows := by
  unfold tableFindings at silent
  split at silent
  · cases silent
  · rename_i some
    exact ⟨fun none => some (List.isEmpty_iff.mpr none), tiled_of_rowsFindings silent⟩

/-- A usable table has a row for every head dimension. -/
theorem Usable.select {rows : List Row} (usable : Usable rows) (head : UInt16) :
    ∃ row ∈ rows, Row.select? rows head = some row := by
  unfold Row.select?
  cases found : rows.find? (head ≤ ·.maxHead) with
  | some row => exact ⟨row, List.mem_of_find?_eq_some found, rfl⟩
  | none =>
    refine ⟨rows.getLast usable.filled, List.getLast_mem usable.filled, ?_⟩
    exact List.getLast?_eq_some_getLast usable.filled

end KernelForge.Tuning

namespace KernelForge.Attention

open Tuning (Row Tables Usable usable_of_tableFindings)

/-- Whatever a problem and a pass ask for, validated tables have a usable table for it. -/
theorem usable_rows {tables : Tables} (valid : tables.validate = .ok ()) (problem : Problem) (pass : Pass)
    (family : Family) : Usable (problem.rows pass family tables.attention) := by
  obtain ⟨table, silent⟩ := silent_rows valid tables.attention.emptied_refl problem pass family
  exact usable_of_tableFindings silent

/-! ### Formats -/

namespace Precisions

@[simp]
theorem get_set (precisions : Precisions) (operand other : Operand) (precision : Precision) :
    (precisions.set operand precision).get other = if other = operand then precision else precisions.get other := by
  by_cases same : other = operand
  · subst same
    rw [if_pos rfl]
    exact Vector.getElem_set_self other.index_lt
  · have apart : operand.index.val ≠ other.index.val := fun equal =>
      same (Operand.index_injective (Fin.ext equal)).symm
    rw [if_neg same]
    exact Vector.getElem_set_ne operand.index_lt other.index_lt apart

@[simp]
theorem get_setAll (precisions : Precisions) (operands : List Operand) (precision : Precision) (other : Operand) :
    (precisions.setAll operands precision).get other =
      if other ∈ operands then precision else precisions.get other := by
  induction operands generalizing precisions with
  | nil => rfl
  | cons operand rest ih =>
    refine (ih (precisions.set operand precision)).trans ?_
    rw [get_set]
    by_cases later : other ∈ rest
    · simp [later]
    · by_cases here : other = operand
      · simp [here]
      · simp [here, later]

end Precisions

namespace Problem

/-- The formats in memory, by operand. -/
theorem get_memoryPrecisions (problem : Problem) (operand : Operand) :
    problem.memoryPrecisions.get operand = match operand with
      | .q | .k | .v => if problem.lowInputs then .fp16 else .fp32
      | .dO => if problem.lowInputs then .bf16 else .fp32
      | .l => if problem.lowIntermediates then .fp16 else .fp32
      | .d | .dST => if problem.lowIntermediates then .bf16 else .fp32
      | .o => if problem.lowOutputs then .fp16 else .fp32
      | .dV | .dK | .dQ => if problem.lowOutputs then .bf16 else .fp32
      | .s | .p | .dP | .dS => .unset := by
  cases operand <;> simp [memoryPrecisions] <;> rfl

/-- The formats in registers, by operand. -/
theorem get_registerPrecisions (problem : Problem) (family : Family) (operand : Operand) :
    (problem.registerPrecisions family).get operand =
      let widened (precision : Precision) : Precision :=
        if precision = .bf16 && !family.nativeBfloat then .fp32 else precision
      match operand with
      | .q | .k | .v | .dO => widened (problem.memoryPrecisions.get operand)
      | .l => if problem.aggressive then problem.memoryPrecisions.get .l else .fp32
      | .d => if problem.aggressive then widened (problem.memoryPrecisions.get .d) else .fp32
      | .s => if problem.aggressive && problem.lowInputs then .fp16 else .fp32
      | .p => if problem.aggressive then .fp16 else .fp32
      | .dS => if problem.aggressive then widened .bf16 else .fp32
      | .o | .dV | .dK | .dQ | .dST | .dP => .fp32 := by
  cases aggressive : problem.aggressive <;> cases operand <;> simp [registerPrecisions, aggressive]

/-- The operands that some kernel binds to a buffer. -/
def buffered : List Operand := [.q, .k, .v, .o, .l, .dO, .d, .dV, .dK, .dQ, .dST]

theorem isValid_memoryPrecisions (problem : Problem) {operand : Operand} (member : operand ∈ buffered) :
    (problem.memoryPrecisions.get operand).isValid = true := by
  simp only [buffered, List.mem_cons, List.not_mem_nil, or_false] at member
  rw [get_memoryPrecisions]
  rcases member with rfl | rfl | rfl | rfl | rfl | rfl | rfl | rfl | rfl | rfl | rfl <;> dsimp only <;> split <;> decide

/-- What has a buffer has the same format in registers, or single precision. -/
theorem registerPrecisions_cases (problem : Problem) (family : Family) {operand : Operand}
    (member : operand ∈ buffered) :
    (problem.registerPrecisions family).get operand = problem.memoryPrecisions.get operand ∨
      (problem.registerPrecisions family).get operand = .fp32 := by
  simp only [buffered, List.mem_cons, List.not_mem_nil, or_false] at member
  rw [get_registerPrecisions]
  rcases member with rfl | rfl | rfl | rfl | rfl | rfl | rfl | rfl | rfl | rfl | rfl
  · exact (ite_eq_or_eq _ _ _).symm
  · exact (ite_eq_or_eq _ _ _).symm
  · exact (ite_eq_or_eq _ _ _).symm
  · exact .inr rfl
  · exact ite_eq_or_eq _ _ _
  · exact (ite_eq_or_eq _ _ _).symm
  · dsimp only
    split
    · exact (ite_eq_or_eq _ _ _).symm
    · exact .inr rfl
  all_goals exact .inr rfl

/-- The parts of the attention matrix have a format in registers. -/
theorem isValid_registerPrecisions (problem : Problem) (family : Family) {operand : Operand}
    (member : operand ∈ [Operand.s, .p, .dP, .dS]) :
    ((problem.registerPrecisions family).get operand).isValid = true := by
  simp only [List.mem_cons, List.not_mem_nil, or_false] at member
  rw [get_registerPrecisions]
  rcases member with rfl | rfl | rfl | rfl
  · dsimp only
    split <;> decide
  · dsimp only
    split <;> decide
  · rfl
  · dsimp only
    split
    · split <;> decide
    · decide

end Problem

/-! ### The operands that a row names -/

/-- Why a pass refuses a name in a row. -/
inductive Pass.Refuses (pass : Pass) (name : String) : Failure → Prop
  | unknown (none : Operand.ofName? name = none) :
    pass.Refuses name (.of .invalidDescriptor s!"unknown attention operand {Text.quote name}")
  | uncacheable (operand : Operand) (known : Operand.ofName? name = some operand)
    (outside : pass.cacheable.contains operand = false) :
    pass.Refuses name (.of .invalidDescriptor
      (s!"{operand.name} cannot be cached by the {pass.name} pass " ++ s!"(cacheable: {pass.cacheable.render})"))

/-- A pass can keep the operand that a name stands for. -/
def Pass.keeps (pass : Pass) (name : String) : Bool :=
  (Operand.ofName? name).any pass.cacheable.contains

/-- The names of a row are taken one after the other, up to the first that is refused. -/
theorem cacheSet_cases (pass : Pass) (names : List String) :
    (∀ name ∈ names, pass.keeps name = true) ∧ (∃ set, cacheSet pass names = .ok set) ∨
      ∃ name ∈ names, pass.keeps name = false ∧ ∃ failure, pass.Refuses name failure ∧
        cacheSet pass names = .error failure := by
  unfold cacheSet
  generalize OperandSet.empty = set
  induction names generalizing set with
  | nil => exact .inl ⟨by simp, set, rfl⟩
  | cons name rest ih =>
    rw [List.foldlM_cons]
    cases known : Operand.ofName? name with
    | none =>
      have refused : pass.keeps name = false := by simp [Pass.keeps, known]
      exact .inr ⟨name, by simp, refused, _, .unknown known, by simp [Operand.parse, known, bind, Except.bind]⟩
    | some operand =>
      cases kept : pass.cacheable.contains operand with
      | false =>
        have refused : pass.keeps name = false := by simp [Pass.keeps, known, kept]
        refine .inr ⟨name, by simp, refused, _, .uncacheable operand known kept, ?_⟩
        simp only [Operand.parse, known, ok_bind, kept, Bool.false_eq_true, if_false]
        rfl
      | true =>
        have keeps : pass.keeps name = true := by simp [Pass.keeps, known, kept]
        have first : (do
            let operand ← Operand.parse name
            if pass.cacheable.contains operand = true then pure (set.insert operand)
            else throw (.of .invalidDescriptor (s!"{operand.name} cannot be cached by the {pass.name} pass " ++
              s!"(cacheable: {pass.cacheable.render})")) : Except Failure OperandSet) = .ok (set.insert operand) := by
          simp only [Operand.parse, known, ok_bind, kept, if_true]
          rfl
        rw [first, ok_bind]
        rcases ih (set.insert operand) with ⟨all, held⟩ | ⟨later, member, refused⟩
        · exact .inl ⟨by simpa [keeps] using all, held⟩
        · exact .inr ⟨later, by simp [member], refused⟩

/-! ### The block along the head dimension -/

theorem toNat_paddedHead {head : UInt16} (fits : head ≤ 65528) :
    (paddedHead head).toNat = (head.toNat + 7) / 8 * 8 := by
  rw [UInt16.le_iff_toNat_le] at fits
  have bound : head.toNat ≤ 65528 := fits
  simp only [paddedHead, UInt16.toNat_mul, UInt16.toNat_div, UInt16.toNat_add, UInt16.reduceToNat]
  omega

/-- A head dimension that cannot be filled up in 16 bits wraps to nothing. -/
theorem paddedHead_eq_zero {head : UInt16} (long : 65528 < head) : paddedHead head = 0 := by
  rw [UInt16.lt_iff_toNat_lt] at long
  have bound : 65528 < head.toNat := long
  have below := head.toNat_lt
  rw [← UInt16.toNat_inj]
  simp only [paddedHead, UInt16.toNat_mul, UInt16.toNat_div, UInt16.toNat_add, UInt16.reduceToNat]
  omega

/-- The part of the head dimension that a block takes. -/
structure HeadBlock (head block : UInt16) : Prop where
  positive : block ≠ 0
  eight : block % 8 = 0
  fits : block ≤ paddedHead head

theorem headBlock_min {row : Row} (tiled : row.Tiled) {head : UInt16} (some : head ≠ 0) (fits : head ≤ 65528) :
    HeadBlock head (min row.head (paddedHead head)) := by
  have padded := toNat_paddedHead fits
  have positive : head.toNat ≠ 0 := fun none => some (UInt16.toNat_inj.mp none)
  have filled : paddedHead head ≠ 0 := by
    rw [ne_eq, ← UInt16.toNat_inj, padded, UInt16.toNat_zero]
    omega
  have eight : paddedHead head % 8 = 0 := by
    rw [← UInt16.toNat_inj, UInt16.toNat_mod, padded]
    simp
  by_cases short : row.head ≤ paddedHead head
  · have whole : min row.head (paddedHead head) = row.head := if_pos short
    rw [whole]
    exact ⟨tiled.head, tiled.eightHead, short⟩
  · have cut : min row.head (paddedHead head) = paddedHead head := if_neg short
    rw [cut]
    exact ⟨filled, eight, UInt16.le_refl _⟩

/-! ### The checks of a descriptor -/

/-- Everything that is asked of a descriptor, the memory of a threadgroup apart. -/
structure Descriptor.Sound (descriptor : Descriptor) : Prop where
  pass : descriptor.type.pass.isValid = true
  head : descriptor.head ≠ 0
  parallelization : descriptor.block.parallelization ≠ 0
  traversal : descriptor.block.traversal ≠ 0
  eightParallelization : descriptor.block.parallelization % 8 = 0
  eightTraversal : descriptor.block.traversal % 8 = 0
  headBlock : HeadBlock descriptor.head descriptor.block.head
  assigned : ∀ operand ∈ descriptor.type.operands.toList, descriptor.checkAssigned operand = .ok ()
  registers : ∀ operand ∈ descriptor.type.registers.toList, descriptor.checkRegister operand = .ok ()
  pairs : ∀ operand ∈ descriptor.type.operands.toList, descriptor.checkPair operand = .ok ()
  accumulators : ∀ operand ∈ descriptor.type.accumulators.toList, descriptor.checkAccumulator operand = .ok ()

theorem Descriptor.checkEach_ok {operands : List Operand} {check : Operand → Except KernelDefect Unit}
    (each : ∀ operand ∈ operands, check operand = .ok ()) : checkEach operands check = .ok () := by
  unfold checkEach
  induction operands with
  | nil => rfl
  | cons operand rest ih =>
    change (do check operand; rest.forM check) = .ok ()
    rw [each operand (by simp), ok_bind]
    exact ih fun next member => each next (by simp [member])

/-- A sound descriptor is refused for its memory or not at all. -/
theorem Descriptor.Sound.ofDescriptor {descriptor : Descriptor} (sound : descriptor.Sound) :
    (descriptor.requiredMemory ≤ maxThreadgroupMemory →
      ∃ kernel, Kernel.ofDescriptor descriptor = .ok kernel ∧ kernel.descriptor = descriptor) ∧
      (maxThreadgroupMemory < descriptor.requiredMemory →
        Kernel.ofDescriptor descriptor = .error (.memory descriptor.requiredMemory)) := by
  have assigned := checkEach_ok sound.assigned
  have registers := checkEach_ok sound.registers
  have pairs := checkEach_ok sound.pairs
  have accumulators := checkEach_ok sound.accumulators
  have low : ¬ paddedHead descriptor.head < descriptor.block.head := UInt16.not_lt.mpr sound.headBlock.fits
  simp only [Kernel.ofDescriptor, sound.pass, sound.head, sound.parallelization, sound.traversal,
    sound.eightParallelization, sound.eightTraversal, sound.headBlock.positive, sound.headBlock.eight, assigned,
    registers, pairs, accumulators, low, Bool.not_true, Bool.false_eq_true, decide_false, Bool.or_false, ne_eq,
    not_true_eq_false, if_false, ok_bind, gt_iff_lt]
  constructor
  · intro enough
    rw [if_neg (Nat.not_lt.mpr enough)]
    exact ⟨_, rfl, rfl⟩
  · intro exceeded
    rw [if_pos exceeded]
    rfl

/-! ### The choice -/

namespace Problem

/-- The kernel that a row stands for. -/
def choice (problem : Problem) (type : KernelType) (device : Device) (row : Row) (cache : OperandSet) : Descriptor where
  block := ⟨row.parallelization, row.traversal, min row.head (paddedHead problem.extents.head)⟩
  cache
  transposed := problem.transposed
  memory := problem.memoryPrecisions
  register := problem.registerPrecisions device.family
  head := problem.extents.head
  asyncCache := decide (9 ≤ device.family.code)
  asyncLoad := !decide (9 ≤ device.family.code)
  type

/-- A problem with all its sizes, for a pass and a generation that exist. -/
structure Complete (problem : Problem) (type : KernelType) (device : Device) : Prop where
  row : problem.extents.row ≠ 0
  column : problem.extents.column ≠ 0
  head : problem.extents.head ≠ 0
  pass : type.pass.isValid = true
  family : device.family.isValid = true

variable {problem : Problem} {type : KernelType} {device : Device} {tables : Tables} {row : Row}

/-- Only the names of the row can make the choice of a complete problem fail. -/
theorem descriptor_of_select (complete : problem.Complete type device)
    (selected : Row.select? (problem.rows type.pass device.family tables.attention) problem.extents.head = some row) :
    problem.descriptor type device tables =
      (cacheSet type.pass row.cached).map (problem.choice type device row) := by
  have checked : problem.check = .ok () := by
    simp [check, complete.row, complete.column, complete.head]
  have found : Row.select (problem.rows type.pass device.family tables.attention) problem.extents.head = .ok row := by
    simp [Row.select, selected]
  simp only [descriptor, checked, ok_bind, complete.pass, complete.family, found, Bool.not_true, Bool.false_eq_true,
    if_false]
  cases cacheSet type.pass row.cached <;> rfl

/-- Only a complete problem has a kernel chosen for it, and that kernel is made for its head dimension. -/
theorem complete_of_descriptor {descriptor : Descriptor}
    (chosen : problem.descriptor type device tables = .ok descriptor) :
    problem.Complete type device ∧ descriptor.head = problem.extents.head := by
  unfold Problem.descriptor at chosen
  obtain ⟨_, checked, chosen⟩ := bind_ok_iff.mp chosen
  simp only [refuse_ok_iff, bind_ok_iff, Bool.not_eq_true', Bool.not_eq_false, pure, Except.pure, Except.ok.injEq]
    at chosen
  obtain ⟨pass, family, row, -, cache, -, rfl⟩ := chosen
  unfold check at checked
  split at checked
  · cases checked
  · rename_i occupied
    simp only [Bool.or_eq_true, decide_eq_true_eq, not_or] at occupied
    exact ⟨⟨occupied.1.1, occupied.1.2, occupied.2, pass, family⟩, rfl⟩

theorem Complete.known (complete : problem.Complete type device) : type ∈ KernelType.all :=
  KernelType.mem_all complete.pass

theorem Complete.known_pass (complete : problem.Complete type device) : type.pass ∈ Pass.all :=
  (by decide : ∀ type ∈ KernelType.all, type.pass ∈ Pass.all) type complete.known

variable {cache : OperandSet}

theorem buffered_of_mem (known : type ∈ KernelType.all) {operand : Operand} (member : operand ∈ type.operands.toList) :
    operand ∈ buffered :=
  (by decide : ∀ type ∈ KernelType.all, ∀ operand ∈ type.operands.toList, operand ∈ buffered) type known operand member

/-- A row of a checked table stands for a sound kernel, for every head dimension that can be filled up. -/
theorem sound_choice (complete : problem.Complete type device) (tiled : row.Tiled)
    (fits : problem.extents.head ≤ 65528) : (problem.choice type device row cache).Sound where
  pass := complete.pass
  head := complete.head
  parallelization := tiled.parallelization
  traversal := tiled.traversal
  eightParallelization := tiled.eightParallelization
  eightTraversal := tiled.eightTraversal
  headBlock := headBlock_min tiled complete.head fits
  assigned := by
    intro operand member
    have bound := buffered_of_mem complete.known member
    have memory := problem.isValid_memoryPrecisions bound
    have register : ((problem.registerPrecisions device.family).get operand).isValid = true := by
      rcases problem.registerPrecisions_cases device.family bound with same | single
      · rw [same, memory]
      · rw [single]
        decide
    simp [Descriptor.checkAssigned, choice, memory, register]
  registers := by
    intro operand member
    have part := (by decide : ∀ type ∈ KernelType.all, ∀ operand ∈ type.registers.toList,
      operand ∈ [Operand.s, .p, .dP, .dS]) type complete.known operand member
    simp [Descriptor.checkRegister, choice, problem.isValid_registerPrecisions device.family part]
  pairs := by
    intro operand member
    have bound := buffered_of_mem complete.known member
    have memory := problem.isValid_memoryPrecisions bound
    rw [Descriptor.checkPair, mapError_ok, Precision.checkPair]
    rcases problem.registerPrecisions_cases device.family bound with same | single
    · simp [choice, same, memory]
    · have valid : Precision.fp32.isValid := by decide
      simp [choice, single, memory, valid]
  accumulators := by
    intro operand member
    have sum := (by decide : ∀ type ∈ KernelType.all, ∀ operand ∈ type.accumulators.toList,
      operand ∈ [Operand.o, .dV, .dK, .dQ]) type complete.known operand member
    have single : (problem.registerPrecisions device.family).get operand = .fp32 := by
      simp only [List.mem_cons, List.not_mem_nil, or_false] at sum
      rw [get_registerPrecisions]
      rcases sum with rfl | rfl | rfl | rfl <;> rfl
    simp [Descriptor.checkAccumulator, choice, single]

theorem block_choice_of_long (long : 65528 < problem.extents.head) :
    (problem.choice type device row cache).block.head = 0 := by
  rw [← UInt16.toNat_inj, choice, toNat_min, paddedHead_eq_zero long]
  exact Nat.min_zero _

/-- Without a filled up head dimension there is no block. -/
theorem ofDescriptor_choice_of_long (complete : problem.Complete type device) (long : 65528 < problem.extents.head) :
    Kernel.ofDescriptor (problem.choice type device row cache) =
      .error (.blockUnset (problem.choice type device row cache).block) := by
  have none : (problem.choice type device row cache).block.head = 0 := block_choice_of_long long
  have pass : (problem.choice type device row cache).type.pass.isValid = true := complete.pass
  have head : (problem.choice type device row cache).head ≠ 0 := complete.head
  simp only [Kernel.ofDescriptor, pass, head, none, Bool.not_true, Bool.false_eq_true, if_false, decide_true,
    Bool.or_true, if_true]
  rfl

end Problem

/-- From validated tables every complete problem gets a kernel that is usable or needs more memory than a threadgroup
    has, unless the row that applies names an operand that is unknown or that the pass cannot keep. That is reported
    by the choice itself, and nothing else can go wrong. -/
theorem descriptor_of_validate {tables : Tables} {problem : Problem} {type : KernelType} {device : Device}
    (valid : tables.validate = .ok ()) (complete : problem.Complete type device)
    (fits : problem.extents.head ≤ 65528) :
    ∃ row, Row.select? (problem.rows type.pass device.family tables.attention) problem.extents.head = some row ∧
      ((∃ name ∈ row.cached, type.pass.keeps name = false ∧ ∃ failure, type.pass.Refuses name failure ∧
          failure.kind = .invalidDescriptor ∧ problem.descriptor type device tables = .error failure) ∨
        (∀ name ∈ row.cached, type.pass.keeps name = true) ∧
          ∃ descriptor, problem.descriptor type device tables = .ok descriptor ∧
            ((∃ kernel, Kernel.ofDescriptor descriptor = .ok kernel) ∨
              ∃ defect, Kernel.ofDescriptor descriptor = .error defect ∧
                defect.failure.kind = .threadgroupMemoryExceeded)) := by
  have usable := usable_rows valid problem type.pass device.family
  obtain ⟨row, member, selected⟩ := usable.select problem.extents.head
  have chosen := Problem.descriptor_of_select complete selected
  refine ⟨row, selected, ?_⟩
  rcases cacheSet_cases type.pass row.cached with ⟨kept, cache, made⟩ | ⟨name, named, refused, failure, why, made⟩
  · rw [made] at chosen
    obtain ⟨accepted, exceeded⟩ := (Problem.sound_choice complete (usable.tiled row member) fits).ofDescriptor
    refine .inr ⟨kept, _, chosen, ?_⟩
    rcases Nat.lt_or_ge maxThreadgroupMemory (problem.choice type device row cache).requiredMemory with more | enough
    · exact .inr ⟨_, exceeded more, rfl⟩
    · obtain ⟨kernel, made, -⟩ := accepted enough
      exact .inl ⟨kernel, made⟩
  · rw [made] at chosen
    have kind : failure.kind = .invalidDescriptor := by cases why <;> rfl
    exact .inl ⟨name, named, refused, failure, why, kind, chosen⟩

/-- The built-in tables with rows for the forward pass of which the first asks for the keys to be kept. -/
def keptKeyTables : Tables :=
  { Tables.builtIn with attention := { Tables.builtIn.attention with
      forward := { Tables.builtIn.attention.forward with
        full := ⟨[⟨64, 16, 64, 16, ["Q", " K"]⟩, ⟨384, 8, 1024, 64, ["Q"]⟩], [⟨0, 8, 8, 8, []⟩]⟩ } } }

/-- A problem of single precision with a head dimension. -/
def singleProblem (head : UInt16) : Problem where
  extents := ⟨100, 70, head⟩

theorem descriptor_of_validate_keptKeys : keptKeyTables.validate = .ok () ∧
    (∃ failure, (singleProblem 48).descriptor ⟨.forward, true⟩ { family := .apple9 } keptKeyTables = .error failure ∧
      failure.kind = .invalidDescriptor) ∧
    ∃ descriptor, (singleProblem 65528).descriptor ⟨.forward, true⟩ { family := .apple9 } keptKeyTables =
        .ok descriptor ∧
      ((∃ kernel, Kernel.ofDescriptor descriptor = .ok kernel) ∨
        ∃ defect, Kernel.ofDescriptor descriptor = .error defect ∧
          defect.failure.kind = .threadgroupMemoryExceeded) := by
  have valid : keptKeyTables.validate = .ok () := by decide +kernel
  have short : (singleProblem 48).Complete ⟨.forward, true⟩ { family := .apple9 } := by constructor <;> decide
  have long : (singleProblem 65528).Complete ⟨.forward, true⟩ { family := .apple9 } := by constructor <;> decide
  have first : Row.select? ((singleProblem 48).rows .forward .apple9 keptKeyTables.attention) 48 =
      some ⟨64, 16, 64, 16, ["Q", " K"]⟩ := by decide +kernel
  have last : Row.select? ((singleProblem 65528).rows .forward .apple9 keptKeyTables.attention) 65528 =
      some ⟨384, 8, 1024, 64, ["Q"]⟩ := by decide +kernel
  refine ⟨valid, ?_, ?_⟩
  · obtain ⟨row, selected, outcome⟩ := descriptor_of_validate valid short (by decide)
    obtain rfl := Option.some.inj (first.symm.trans selected)
    rcases outcome with ⟨_, _, _, failure, _, kind, failed⟩ | ⟨kept, -⟩
    · exact ⟨failure, failed, kind⟩
    · exact absurd (kept " K" (by simp)) (by decide +kernel)
  · obtain ⟨row, selected, outcome⟩ := descriptor_of_validate valid long (by decide)
    obtain rfl := Option.some.inj (last.symm.trans selected)
    rcases outcome with ⟨name, named, refused, -⟩ | ⟨-, chosen⟩
    · obtain rfl : name = "Q" := by simpa using named
      exact absurd refused (by decide +kernel)
    · exact chosen

/-! ### The built-in tables -/

namespace Problem

variable {problem : Problem} {type : KernelType} {device : Device} {row : Row} {cache : OperandSet}

theorem stagedBytes_choice_le (compact : row.Compact) (operand : Operand) :
    (problem.choice type device row cache).stagedBytes operand ≤ maxThreadgroupMemory := by
  have size := ((problem.choice type device row cache).memory.get operand).size_le
  have head : (problem.choice type device row cache).block.head.toNat ≤ row.head.toNat := by
    rw [choice, toNat_min]
    exact Nat.min_le_left _ _
  have sequence : ((problem.choice type device row cache).blockSequence operand).toNat * row.head.toNat ≤ 8192 := by
    unfold Descriptor.blockSequence
    split
    · exact compact.parallelBlock
    · exact compact.traversalBlock
  calc (problem.choice type device row cache).stagedBytes operand
      ≤ ((problem.choice type device row cache).blockSequence operand).toNat * row.head.toNat * 4 :=
        Nat.mul_le_mul (Nat.mul_le_mul_left _ head) size
    _ ≤ 8192 * 4 := Nat.mul_le_mul_right 4 sequence

theorem requiredMemory_choice_le (compact : row.Compact) :
    (problem.choice type device row cache).requiredMemory ≤ maxThreadgroupMemory := by
  have size : ∀ operand, ((problem.choice type device row cache).memory.get operand).size ≤ 4 := fun operand =>
    Precision.size_le _
  refine List.foldlRecOn (motive := (· ≤ maxThreadgroupMemory)) _ max (Nat.zero_le _) ?_
  intro held below bytes member
  refine Nat.max_le.mpr ⟨below, ?_⟩
  simp only [List.mem_append, List.mem_map] at member
  rcases member with (⟨operand, -, staged⟩ | edge) | slice
  · exact staged ▸ stagedBytes_choice_le compact operand
  · split at edge
    · rw [List.mem_singleton.mp edge]
      calc row.parallelization.toNat * 8 * (_ + _)
          ≤ 512 * 8 * (4 + 4) :=
            Nat.mul_le_mul (Nat.mul_le_mul_right 8 compact.parallelization) (Nat.add_le_add (size .dO) (size .o))
        _ = 32 * 1024 := rfl
    · cases edge
  · split at slice
    · simp only [List.mem_cons, List.not_mem_nil, or_false] at slice
      have short : ∀ operand, row.traversal.toNat * ((problem.choice type device row cache).memory.get operand).size ≤
          8192 * 4 := fun operand => Nat.mul_le_mul compact.traversal (size operand)
      rcases slice with logarithms | terms
      · exact logarithms ▸ short .l
      · exact terms ▸ short .d
    · cases slice

/-- The rows of a pass, of whichever table. -/
def allRows (pass : Pass) (tables : Tuning.AttentionTables) : List Row :=
  let ofPass := passTables pass tables
  [ofPass.mixed, ofPass.full, tables.default].flatMap fun rows => rows.apple9 ++ rows.legacy

theorem mem_allRows {pass : Pass} {family : Family} {tables : Tuning.AttentionTables}
    (member : row ∈ problem.rows pass family tables) : row ∈ allRows pass tables := by
  have ofFamily : ∀ rows : Tuning.FamilyRows, row ∈ rows.forFamily family → row ∈ rows.apple9 ++ rows.legacy := by
    intro rows found
    unfold Tuning.FamilyRows.forFamily at found
    split at found
    · exact List.mem_append_left _ found
    · exact List.mem_append_right _ found
  have anywhere : row ∈ (passTables pass tables).mixed.forFamily family ∨
      row ∈ (passTables pass tables).full.forFamily family ∨ row ∈ tables.default.forFamily family := by
    simp only [rows] at member
    split at member <;> split at member <;> simp [member]
  refine List.mem_flatMap.mpr ?_
  rcases anywhere with mixed | full | default
  · exact ⟨_, by simp, ofFamily _ mixed⟩
  · exact ⟨_, by simp, ofFamily _ full⟩
  · exact ⟨_, by simp, ofFamily _ default⟩

end Problem

theorem builtIn_compact : ∀ pass ∈ Pass.all, ∀ row ∈ Problem.allRows pass Tables.builtIn.attention,
    row.Compact ∧ ∀ name ∈ row.cached, pass.keeps name = true := by
  decide +kernel

/-- With the built-in tables every complete problem has a kernel, whose block takes a positive number of tiles of the
    filled up head dimension, as long as that dimension can be filled up in 16 bits. From 65529 on it cannot: the choice
    still succeeds, but its block is empty and no kernel accepts it. -/
theorem ofDescriptor_of_builtIn {problem : Problem} {type : KernelType} {device : Device}
    (complete : problem.Complete type device) :
    ∃ descriptor, problem.descriptor type device Tables.builtIn = .ok descriptor ∧
      (problem.extents.head ≤ 65528 → ∃ kernel, Kernel.ofDescriptor descriptor = .ok kernel ∧
        0 < kernel.descriptor.block.head.toNat ∧ 8 ∣ kernel.descriptor.block.head.toNat ∧
          kernel.descriptor.block.head.toNat ≤ 8 * ((problem.extents.head.toNat + 7) / 8)) ∧
      (65528 < problem.extents.head → descriptor.block.head = 0 ∧
        ∃ defect, Kernel.ofDescriptor descriptor = .error defect ∧ defect.failure.kind = .descriptorIncomplete) := by
  have valid : Tables.builtIn.validate = .ok () := by decide +kernel
  have usable := usable_rows valid problem type.pass device.family
  obtain ⟨row, member, selected⟩ := usable.select problem.extents.head
  obtain ⟨compact, names⟩ := builtIn_compact type.pass complete.known_pass row (Problem.mem_allRows member)
  have chosen := Problem.descriptor_of_select complete selected
  rcases cacheSet_cases type.pass row.cached with ⟨-, cache, made⟩ | ⟨name, named, refused, -⟩
  · rw [made] at chosen
    refine ⟨_, chosen, fun fits => ?_, fun long => ?_⟩
    · have sound : (problem.choice type device row cache).Sound :=
        Problem.sound_choice complete (usable.tiled row member) fits
      have padded : _ ≤ (paddedHead problem.extents.head).toNat := UInt16.le_iff_toNat_le.mp sound.headBlock.fits
      have positive : (problem.choice type device row cache).block.head.toNat ≠ 0 := fun none =>
        sound.headBlock.positive (UInt16.toNat_inj.mp none)
      have eight := congrArg UInt16.toNat sound.headBlock.eight
      rw [UInt16.toNat_mod] at eight
      rw [toNat_paddedHead fits, Nat.mul_comm] at padded
      obtain ⟨kernel, accepted, same⟩ := sound.ofDescriptor.1 (Problem.requiredMemory_choice_le compact)
      rw [← same] at positive eight padded
      exact ⟨kernel, accepted, Nat.pos_of_ne_zero positive, Nat.dvd_of_mod_eq_zero eight, padded⟩
    · exact ⟨Problem.block_choice_of_long long, _, Problem.ofDescriptor_choice_of_long complete long, rfl⟩
  · rw [names name named] at refused
    cases refused

theorem ofDescriptor_of_builtIn_longest :
    ∃ descriptor, (singleProblem 65528).descriptor ⟨.backwardKeyValue, false⟩ { family := .apple8 } Tables.builtIn =
        .ok descriptor ∧
      ∃ kernel, Kernel.ofDescriptor descriptor = .ok kernel ∧ 0 < kernel.descriptor.block.head.toNat ∧
        8 ∣ kernel.descriptor.block.head.toNat ∧ kernel.descriptor.block.head.toNat ≤ 65528 := by
  have complete : (singleProblem 65528).Complete ⟨.backwardKeyValue, false⟩ { family := .apple8 } := by
    constructor <;> decide
  obtain ⟨descriptor, chosen, accepted, -⟩ := ofDescriptor_of_builtIn complete
  exact ⟨descriptor, chosen, accepted (by decide)⟩

/-- The built-in tables have no kernel for the longest heads. -/
theorem ofDescriptor_longHead : ∃ descriptor,
    (singleProblem 65529).descriptor ⟨.forward, true⟩ { family := .apple9 } Tables.builtIn = .ok descriptor ∧
      descriptor.block.head = 0 ∧ ∃ defect, Kernel.ofDescriptor descriptor = .error defect ∧
        defect.failure.kind = .descriptorIncomplete :=
  ⟨_, rfl, rfl, _, rfl, rfl⟩

end KernelForge.Attention
