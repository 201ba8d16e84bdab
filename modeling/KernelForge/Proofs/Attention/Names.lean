import KernelForge.Attention.Document
import KernelForge.Proofs.Attention.Heuristic
import KernelForge.Proofs.Attention.Key
import KernelForge.Proofs.Gemm.Decoding

/-!
Sets of operands and their formats come back from names: a set from the names of its members between commas, formats
from the pairs of a name and a format, in whatever order. What is not named is not in the set, or has no format.
-/

namespace KernelForge.Attention

open Text (Within)

namespace Operand

/-- The name of an operand is read as the operand, and written as it is. -/
theorem parse_name (operand : Operand) :
    Operand.parse operand.name = .ok operand ∧ Within Json.isPlain operand.name := by
  cases operand <;> exact ⟨by decide +kernel, by decide⟩

theorem isEmpty_trim_name (operand : Operand) : (Text.trim operand.name).isEmpty = false := by
  cases operand <;> decide +kernel

theorem exists_index (number : Fin 15) : ∃ operand : Operand, operand.index = number := by
  have each : ∀ number : Fin 15, ∃ operand ∈ all, operand.index = number := by decide
  obtain ⟨operand, -, same⟩ := each number
  exact ⟨operand, same⟩

end Operand

namespace OperandSet

/-- A set of the fifteen operands: the sixteenth bit is clear. -/
def Proper (set : OperandSet) : Prop :=
  set.bits.toNat < 2 ^ 15

instance (set : OperandSet) : Decidable set.Proper :=
  inferInstanceAs (Decidable (_ < _))

theorem contains_insert (set : OperandSet) (operand other : Operand) :
    (set.insert operand).contains other = (set.contains other || decide (other = operand)) := by
  have bit : (bitOf (UInt8.ofNat operand.index)).toBitVec = BitVec.twoPow 16 operand.index.val := by
    cases operand <;> rfl
  have short : operand.index.val < 16 := Nat.lt_succ_of_lt operand.index_lt
  rw [contains_eq_getLsbD, contains_eq_getLsbD, insert, insertCode, UInt16.toBitVec_or, bit, BitVec.getLsbD_or,
    BitVec.getLsbD_twoPow]
  congr 1
  by_cases same : other = operand
  · simp [same, short]
  · have apart : operand.index.val ≠ other.index.val := fun equal =>
      same (Operand.index_injective (Fin.ext equal)).symm
    simp [same, apart]

theorem Proper.insert {set : OperandSet} (proper : set.Proper) (operand : Operand) : (set.insert operand).Proper := by
  have bit : (bitOf (UInt8.ofNat operand.index)).toNat < 2 ^ 15 := by
    cases operand <;> decide
  rw [Proper, OperandSet.insert, insertCode, UInt16.toNat_or]
  exact Nat.or_lt_two_pow proper bit

theorem foldl_insert {set : OperandSet} (proper : set.Proper) (operands : List Operand) :
    (operands.foldl insert set).Proper ∧
      ∀ other, (operands.foldl insert set).contains other = (set.contains other || decide (other ∈ operands)) := by
  induction operands generalizing set with
  | nil => exact ⟨proper, fun other => by simp⟩
  | cons operand rest ih =>
    obtain ⟨kept, members⟩ := ih (proper.insert operand)
    refine ⟨kept, fun other => ?_⟩
    rw [List.foldl_cons, members, contains_insert, Bool.or_assoc, ← Bool.decide_or]
    simp only [List.mem_cons]

/-- Sets with the same members are equal. -/
theorem ext_contains {first second : OperandSet} (left : first.Proper) (right : second.Proper)
    (same : ∀ operand, first.contains operand = second.contains operand) : first = second := by
  have high {set : OperandSet} (proper : set.Proper) : set.bits.toBitVec.getLsbD 15 = false :=
    Nat.testBit_lt_two_pow proper
  suffices bits : first.bits.toBitVec = second.bits.toBitVec from congrArg mk (UInt16.toBitVec_inj.mp bits)
  apply BitVec.eq_of_getLsbD_eq
  intro number below
  by_cases last : number = 15
  · rw [last, high left, high right]
  · obtain ⟨operand, index⟩ := Operand.exists_index ⟨number, by omega⟩
    have equal := same operand
    rw [contains_eq_getLsbD, contains_eq_getLsbD, index] at equal
    exact equal

theorem foldl_insert_toList {set : OperandSet} (proper : set.Proper) : set.toList.foldl insert empty = set := by
  obtain ⟨kept, members⟩ := @foldl_insert empty (by decide) set.toList
  refine ext_contains kept proper fun operand => ?_
  have none : empty.contains operand = false := by cases operand <;> rfl
  rw [members, none, Bool.false_or]
  simp

/-- Names are taken into a set one after the other. -/
theorem foldlM_names (operands : List Operand) (set : OperandSet) :
    (operands.map Operand.name).foldlM (fun set piece =>
        if (Text.trim piece).isEmpty then Except.ok set else (Operand.parse piece).map set.insert) set =
      .ok (operands.foldl insert set) := by
  induction operands generalizing set with
  | nil => rfl
  | cons operand rest ih =>
    rw [List.map_cons, List.foldlM_cons, operand.isEmpty_trim_name, operand.parse_name.1]
    exact ih (set.insert operand)

/-- A set comes back from its text. -/
theorem parse_render {set : OperandSet} (proper : set.Proper) : OperandSet.parse set.render = .ok set := by
  have comma : "," = String.singleton ',' := rfl
  have plain : ∀ text ∈ set.toList.map Operand.name, ',' ∉ text.toList := by
    intro text member
    obtain ⟨operand, -, rfl⟩ := List.mem_map.mp member
    cases operand <;> decide
  have whole := foldl_insert_toList proper
  unfold parse render Text.pieces
  rw [comma, Text.splitOn_joined plain]
  split
  · next none =>
    rw [List.map_eq_nil_iff.mp none] at whole
    rw [← whole]
    decide +kernel
  · have names : ((set.toList.map Operand.name).map String.toList).map String.ofList = set.toList.map Operand.name := by
      simp
    rw [names, foldlM_names, whole]

end OperandSet

namespace Precisions

/-- No format but the three that have names. -/
def Named (precisions : Precisions) : Prop :=
  ∀ operand, precisions.get operand = .unset ∨ (precisions.get operand).isValid

instance (precisions : Precisions) : Decidable precisions.Named :=
  decidable_of_iff (∀ operand ∈ Operand.all,
    precisions.get operand = .unset ∨ (precisions.get operand).isValid) (by
    have listed : ∀ operand : Operand, operand ∈ Operand.all := by
      intro operand
      cases operand <;> decide
    simp [Named, listed])

theorem ext_get {first second : Precisions} (same : ∀ operand, first.get operand = second.get operand) :
    first = second := by
  obtain ⟨first⟩ := first
  obtain ⟨second⟩ := second
  refine congrArg mk (Vector.ext fun number below => ?_)
  obtain ⟨operand, index⟩ := Operand.exists_index ⟨number, below⟩
  have equal := same operand
  rw [get, get, index] at equal
  exact equal

theorem mem_named {precisions : Precisions} {entry : String × Precision} :
    entry ∈ precisions.named ↔
      ∃ operand, (precisions.get operand).isValid = true ∧ entry = (operand.name, precisions.get operand) := by
  have listed : ∀ operand : Operand, operand ∈ Operand.all := by
    intro operand
    cases operand <;> decide
  simp only [named, List.mem_mergeSort, List.mem_map, List.mem_filter, listed, true_and, eq_comm]

/-- Formats by name are put in place one after the other. -/
theorem foldlM_named {precisions : Precisions} {entries : List (String × Precision)}
    (each : ∀ entry ∈ entries, ∃ operand : Operand, entry = (operand.name, precisions.get operand))
    (start : Precisions) :
    ∃ result, entries.foldlM (fun held entry =>
        (Operand.parse entry.1).map fun operand => held.set operand entry.2) start = .ok result ∧
      ∀ operand, result.get operand =
        if (operand.name, precisions.get operand) ∈ entries then precisions.get operand else start.get operand := by
  induction entries generalizing start with
  | nil => exact ⟨start, rfl, fun operand => by simp⟩
  | cons entry rest ih =>
    obtain ⟨⟨placed, rfl⟩, others⟩ := List.forall_mem_cons.mp each
    obtain ⟨result, folded, gets⟩ := ih others (start.set placed (precisions.get placed))
    refine ⟨result, ?_, fun operand => ?_⟩
    · rw [List.foldlM_cons, placed.parse_name.1]
      exact folded
    · rw [gets, get_set]
      by_cases same : operand = placed
      · simp [same]
      · have apart : operand.name ≠ placed.name := fun equal => same (Operand.name_injective equal)
        simp [same, apart]

/-- Formats come back from their names. -/
theorem ofNamed_named {precisions : Precisions} (fine : precisions.Named) :
    Precisions.ofNamed precisions.named = .ok precisions := by
  obtain ⟨result, folded, gets⟩ := @foldlM_named precisions precisions.named
    (fun entry member => (mem_named.mp member).imp fun _ => And.right) unset
  rw [ofNamed, folded]
  refine congrArg Except.ok (ext_get fun operand => ?_)
  rw [gets]
  split
  · rfl
  · next absent =>
    rcases fine operand with none | valid
    · rw [none]
      cases operand <;> rfl
    · exact absurd (mem_named.mpr ⟨operand, valid, rfl⟩) absent

end Precisions

end KernelForge.Attention
