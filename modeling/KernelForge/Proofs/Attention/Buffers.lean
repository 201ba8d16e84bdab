import KernelForge.Attention.Emulation
import KernelForge.Proofs.Cell

/-!
What the passes of attention leave in their buffers. Each row of a pass writes cells of a few operands and
reads others, so `Stored` says for all operands at once which cells were written, and `Agrees` that everything
but a few operands is as it was. A run of threadgroups, in any order and even more than once, stores the rows
of all of them as soon as every single row can be run on buffers that agree with those of the start.
-/

namespace KernelForge.Attention

variable {α : Type}

/-- The number of an operand finds it again. -/
theorem Operand.all_index (operand : Operand) : Operand.all[operand.index.val]? = some operand := by
  cases operand <;> rfl

theorem Operand.index_injective {first second : Operand} (same : first.index = second.index) : first = second := by
  have found := first.all_index
  rw [same, second.all_index] at found
  exact (Option.some.inj found).symm

namespace Layout

/-- Places of a matrix are distinct. -/
theorem position_injective {layout : Layout} {index dimension index' dimension' : Nat}
    (inLength : index < layout.length) (inHead : dimension < layout.head) (inLength' : index' < layout.length)
    (inHead' : dimension' < layout.head)
    (equal : layout.position index dimension = layout.position index' dimension') :
    index = index' ∧ dimension = dimension' := by
  unfold position at equal
  split at equal
  · exact (rowMajor_injective inLength inLength' equal).symm
  · exact rowMajor_injective inHead inHead' equal

theorem position_lt {layout : Layout} {index dimension : Nat} (inLength : index < layout.length)
    (inHead : dimension < layout.head) : layout.position index dimension < layout.size := by
  unfold position size
  split
  · rw [Nat.mul_comm layout.length]
    exact (rectangle_index inHead inLength).1
  · exact (rectangle_index inLength inHead).1

end Layout

namespace Buffers

theorem get_set_self (buffers : Buffers α) (operand : Operand) (content : Array α) :
    (buffers.set operand content).get operand = content :=
  Vector.getElem_set_self operand.index_lt

theorem get_set_of_ne (buffers : Buffers α) {operand other : Operand} (different : other ≠ operand)
    (content : Array α) : (buffers.set operand content).get other = buffers.get other := by
  have apart : operand.index.val ≠ other.index.val := fun same =>
    different (Operand.index_injective (Fin.ext same)).symm
  exact Vector.getElem_set_ne operand.index_lt other.index_lt apart

/-- Cells of several operands were written, and all others kept. -/
def Stored (allowed : Operand → Nat → α → Prop) (cells : Operand → Nat → Prop) (before after : Buffers α) :
    Prop :=
  ∀ operand, Written (allowed operand) (cells operand) (before.get operand) (after.get operand)

/-- Only a few operands may have changed, and none in its length. -/
structure Agrees (changed : List Operand) (before after : Buffers α) : Prop where
  size : ∀ operand, (after.get operand).size = (before.get operand).size
  kept : ∀ operand, operand ∉ changed → after.get operand = before.get operand

theorem Agrees.refl (changed : List Operand) (buffers : Buffers α) : Agrees changed buffers buffers :=
  ⟨fun _ => rfl, fun _ _ => rfl⟩

theorem Agrees.trans {changed : List Operand} {before middle after : Buffers α}
    (first : Agrees changed before middle) (second : Agrees changed middle after) :
    Agrees changed before after :=
  ⟨fun operand => (second.size operand).trans (first.size operand),
    fun operand outside => (second.kept operand outside).trans (first.kept operand outside)⟩

namespace Stored

variable {allowed : Operand → Nat → α → Prop} {cells later : Operand → Nat → Prop}
  {before middle after : Buffers α}

theorem agrees {changed : List Operand} (stored : Stored allowed cells before after)
    (within : ∀ operand cell, cells operand cell → operand ∈ changed) : Agrees changed before after := by
  refine ⟨fun operand => (stored operand).size, ?_⟩
  intro operand outside
  apply Array.ext_getElem?
  intro cell
  exact (stored operand).kept cell fun here => outside (within operand cell here)

theorem refl (buffers : Buffers α) : Stored allowed (fun _ _ => False) buffers buffers :=
  fun operand => Written.refl (buffers.get operand)

theorem trans (first : Stored allowed cells before middle) (second : Stored allowed later middle after) :
    Stored allowed (fun operand cell => cells operand cell ∨ later operand cell) before after :=
  fun operand => (first operand).trans (second operand)

theorem congr (stored : Stored allowed cells before after)
    (same : ∀ operand cell, cells operand cell ↔ later operand cell) : Stored allowed later before after :=
  fun operand => (stored operand).congr (same operand)

/-- One buffer exchanged for one with cells written. -/
theorem set {operand : Operand} {content : Array α} {places : Nat → Prop}
    (written : Written (allowed operand) places (before.get operand) content) :
    Stored allowed (fun other cell => other = operand ∧ places cell) before (before.set operand content) := by
  intro other
  by_cases same : other = operand
  · subst same
    rw [get_set_self]
    exact written.congr (by simp)
  · rw [get_set_of_ne before same]
    exact (Written.refl _).congr (by simp [same])

end Stored

theorem ext_get {first second : Buffers α} (same : ∀ operand, first.get operand = second.get operand) :
    first = second := by
  obtain ⟨first⟩ := first
  obtain ⟨second⟩ := second
  congr 1
  ext1 index below
  have numbered : ∀ number : Fin 15, ∃ operand ∈ Operand.all, operand.index = number := by decide
  obtain ⟨operand, -, isIndex⟩ := numbered ⟨index, below⟩
  have here := same operand
  unfold get at here
  rw [isIndex] at here
  exact here

/-- What was stored is determined if there is only one value for each cell. -/
theorem Stored.unique {allowed : Operand → Nat → α → Prop} {cells : Operand → Nat → Prop}
    {before first second : Buffers α}
    (only : ∀ operand cell one other, cells operand cell → allowed operand cell one → allowed operand cell other →
      one = other)
    (storedFirst : Stored allowed cells before first) (storedSecond : Stored allowed cells before second) :
    first = second := by
  refine ext_get fun operand => Array.ext_getElem? fun cell => ?_
  by_cases here : cells operand cell
  · obtain ⟨one, foundOne, fineOne⟩ := (storedFirst operand).written cell here
    obtain ⟨other, foundOther, fineOther⟩ := (storedSecond operand).written cell here
    rw [foundOne, foundOther, only operand cell one other here fineOne fineOther]
  · rw [(storedFirst operand).kept cell here, (storedSecond operand).kept cell here]

/-- A loop over rows stores all of them, as long as each can be run on buffers that agree with the first. -/
theorem foldlM_stored {ι ε : Type} (allowed : Operand → Nat → α → Prop) (changed : List Operand)
    (step : Buffers α → ι → Except ε (Buffers α)) (cells : ι → Operand → Nat → Prop) (items : List ι)
    (buffers : Buffers α) (within : ∀ item operand cell, cells item operand cell → operand ∈ changed)
    (each : ∀ item ∈ items, ∀ held, Agrees changed buffers held →
      ∃ next, step held item = .ok next ∧ Stored allowed (cells item) held next) :
    ∃ last, items.foldlM step buffers = .ok last ∧
      Stored allowed (fun operand cell => ∃ item ∈ items, cells item operand cell) buffers last := by
  induction items generalizing buffers with
  | nil => exact ⟨buffers, rfl, (Stored.refl buffers).congr (by simp)⟩
  | cons head tail ih =>
    obtain ⟨middle, stepped, first⟩ := each head (by simp) buffers (Agrees.refl changed buffers)
    have agrees := first.agrees (within head)
    obtain ⟨last, folded, rest⟩ := ih middle fun item member held later =>
      each item (by simp [member]) held (agrees.trans later)
    refine ⟨last, ?_, (first.trans rest).congr (by simp)⟩
    rw [List.foldlM_cons, stepped, ok_bind, folded]

theorem setCell_stored {allowed : Operand → Nat → α → Prop} {buffers : Buffers α} {operand : Operand}
    {index : Nat} {value : α} (inside : index < (buffers.get operand).size)
    (fine : allowed operand index value) :
    ∃ next, buffers.setCell operand index value = .ok next ∧
      Stored allowed (fun other cell => other = operand ∧ cell = index) buffers next := by
  obtain ⟨content, stored, written⟩ := writeCell_written inside fine
  refine ⟨buffers.set operand content, ?_, Stored.set written⟩
  unfold setCell
  rw [stored]
  rfl

/-- A row of values, each allowed in its place. -/
theorem setRow_stored {allowed : Operand → Nat → α → Prop} {buffers : Buffers α} {problem : Problem}
    {operand : Operand} {index : Nat} (value : Nat → α) (inLength : index < (problem.layout operand).length)
    (long : (problem.layout operand).size ≤ (buffers.get operand).size)
    (fine : ∀ dimension < (problem.layout operand).head,
      allowed operand ((problem.layout operand).position index dimension) (value dimension)) :
    ∃ next, buffers.setRow problem operand index ((List.range (problem.layout operand).head).map value) = .ok next ∧
      Stored allowed (fun other cell => other = operand ∧ ∃ dimension < (problem.layout operand).head,
        cell = (problem.layout operand).position index dimension) buffers next := by
  obtain ⟨content, stored, written⟩ := foldlM_written (allowed operand)
    (fun held (entry : α × Nat) => writeCell held ((problem.layout operand).position index entry.2) entry.1)
    (fun entry cell => cell = (problem.layout operand).position index entry.2)
    ((List.range (problem.layout operand).head).map value).zipIdx (buffers.get operand)
    (by
      rintro ⟨entry, dimension⟩ member held same
      obtain ⟨below, rfl⟩ := List.getElem?_eq_some_iff.mp (List.mk_mem_zipIdx_iff_getElem?.mp member)
      simp only [List.length_map, List.length_range] at below
      simp only [List.getElem_map, List.getElem_range]
      refine writeCell_written ?_ (fine _ below)
      rw [same]
      exact Nat.lt_of_lt_of_le (Layout.position_lt inLength below) long)
  refine ⟨buffers.set operand content, ?_, Stored.set (written.congr ?_)⟩
  · exact congrArg (fun result => result >>= fun content => .ok (buffers.set operand content)) stored
  · intro cell
    constructor
    · rintro ⟨⟨entry, dimension⟩, member, here⟩
      have below := List.snd_lt_of_mem_zipIdx member
      simp only [List.length_map, List.length_range, Nat.add_zero] at below
      exact ⟨dimension, below, here⟩
    · rintro ⟨dimension, below, here⟩
      refine ⟨(value dimension, dimension), ?_, here⟩
      rw [List.mk_mem_zipIdx_iff_getElem?]
      simp [below]

end Buffers

namespace Launch

open Buffers

variable [SoftmaxRegister α]

/-- The number of rows of a threadgroup. -/
def groupSize (launch : Launch) : Nat := launch.kernel.descriptor.block.parallelization.toNat

/-- The rows that a threadgroup owns. -/
theorem mem_group_iff (launch : Launch) (positive : 0 < launch.groupSize) (group index : Nat) :
    index ∈ List.range' (group * launch.groupSize)
        (min (group * launch.groupSize + launch.groupSize) launch.parallelCount - group * launch.groupSize) ↔
      index < launch.parallelCount ∧ index / launch.groupSize = group := by
  rw [List.mem_range'_1, Nat.div_eq_iff positive]
  generalize group * launch.groupSize = first
  omega

/-- Threadgroups store the rows they own, in whichever order they run. -/
theorem runGroups_stored (launch : Launch) (allowed : Operand → Nat → α → Prop) (changed : List Operand)
    (cells : Nat → Operand → Nat → Prop) (groups : List Nat) (buffers : Buffers α)
    (positive : 0 < launch.groupSize)
    (within : ∀ index operand cell, cells index operand cell → operand ∈ changed)
    (each : ∀ index < launch.parallelCount, ∀ held, Agrees changed buffers held →
      ∃ next, launch.runRow index held = .ok next ∧ Stored allowed (cells index) held next) :
    ∃ last, launch.runGroups groups buffers = .ok last ∧ Stored allowed (fun operand cell =>
      ∃ index < launch.parallelCount, index / launch.groupSize ∈ groups ∧ cells index operand cell) buffers last := by
  obtain ⟨last, ran, stored⟩ := foldlM_stored allowed changed launch.runGroup
    (fun group operand cell => ∃ index < launch.parallelCount,
      index / launch.groupSize = group ∧ cells index operand cell) groups buffers
    (by
      rintro group operand cell ⟨index, -, -, here⟩
      exact within index operand cell here)
    (by
      intro group _ held agrees
      obtain ⟨next, stepped, written⟩ := foldlM_stored allowed changed
        (fun held index => launch.runRow index held) cells _ held within
        (by
          intro index member middle later
          exact each index ((launch.mem_group_iff positive group index).mp member).1 middle (agrees.trans later))
      refine ⟨next, stepped, written.congr fun operand cell => ?_⟩
      simp only [mem_group_iff launch positive, and_assoc])
  refine ⟨last, ran, stored.congr fun operand cell => ⟨?_, ?_⟩⟩
  · rintro ⟨group, member, index, inside, rfl, here⟩
    exact ⟨index, inside, member, here⟩
  · rintro ⟨index, inside, member, here⟩
    exact ⟨_, member, index, inside, rfl, here⟩

end Launch

end KernelForge.Attention
