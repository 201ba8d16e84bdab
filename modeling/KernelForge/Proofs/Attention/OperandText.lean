import Mathlib.Data.List.Sublists
import KernelForge.Proofs.Attention.Names
import KernelForge.Proofs.Text.Trim

/-!
The texts of sets of operands. A text is read when each of its places between commas is blank or holds a name, and what
is read are the operands named there, so neither order nor repetition nor blanks matter. Of all texts of a set one is
written: it has every member once, those in device memory first and in the order of their buffers, and it is read as the
set again.
-/

namespace KernelForge.Attention

namespace Operand

theorem mem_all (operand : Operand) : operand ∈ all := by
  cases operand <;> decide

theorem name_ne_empty (operand : Operand) : operand.name ≠ "" := by
  cases operand <;> decide

theorem ofName?_eq_some_iff {text : String} {operand : Operand} :
    ofName? text = some operand ↔ Text.trim text = operand.name := by
  have named {operand : Operand} (found : ofName? text = some operand) : Text.trim text = operand.name := by
    unfold ofName? at found
    have same := List.find?_some found
    exact (beq_iff_eq.mp same).symm
  constructor
  · exact named
  · intro same
    cases found : ofName? text with
    | none => exact absurd (beq_iff_eq.mpr same.symm) (List.find?_eq_none.mp found operand operand.mem_all)
    | some other => rw [name_injective ((named found).symm.trans same)]

/-- Whether an operand may be listed before another one: if that one has a buffer, the operand has one too, and not a
    later one. -/
def MayPrecede (first second : Operand) : Prop :=
  ∀ binding ∈ second.binding?, ∃ earlier ∈ first.binding?, earlier ≤ binding

instance : DecidableRel MayPrecede := fun first second =>
  decidable_of_iff (second.binding?.all fun binding => first.binding?.any (· ≤ binding)) (by
    simp [MayPrecede, Option.all_eq_true, Option.any_eq_true])

theorem mayPrecede_inBindingOrder : inBindingOrder.Pairwise MayPrecede := by
  decide

/-- How operands are compared for a list: by buffer, where one that has none comes later, and two that have none by
    number. -/
def order (first second : Operand) : Int :=
  match first.binding?, second.binding? with
  | some left, some right => left - right
  | some _, none => -1
  | none, some _ => 1
  | none, none => (first.index.val : Int) - second.index.val

/-- Whether the comparison leaves two operands in their places. -/
def inOrder (first second : Operand) : Bool :=
  order first second ≤ 0

/-- The comparison is one of numbers, because there are more operands in front of those without a buffer than buffers. -/
theorem inOrder_iff {first second : Operand} :
    inOrder first second = true ↔
      first.binding?.getD first.index.val ≤ second.binding?.getD second.index.val := by
  cases first <;> cases second <;> decide

/-- Out of place are only operands that the comparison leaves in the order of their numbers. -/
theorem sublist_of_inOrder {first second : Operand} (sorted : inOrder first second = true) (different : first ≠ second) :
    [first, second].Sublist inBindingOrder ∨ inOrder second first = true ∧ [second, first].Sublist all := by
  revert sorted different
  cases first <;> cases second <;> decide

end Operand

namespace OperandSet

open Operand (inOrder inBindingOrder MayPrecede)
open Text (words mem_words)

/-! ### Lists of members -/

theorem nodup_toList (set : OperandSet) : set.toList.Nodup := by
  have nodup : inBindingOrder.Nodup := by decide
  exact nodup.filter _

theorem mayPrecede_toList (set : OperandSet) : set.toList.Pairwise MayPrecede :=
  Operand.mayPrecede_inBindingOrder.filter _

/-- In a list without repetitions no two members stand in both orders. -/
theorem not_sublist_of_nodup {α : Type} {items : List α} (nodup : items.Nodup) {first second : α}
    (forward : [first, second].Sublist items) : ¬[second, first].Sublist items := by
  induction items with
  | nil => cases forward
  | cons item rest ih =>
    obtain ⟨absent, distinct⟩ := List.nodup_cons.mp nodup
    intro backward
    rw [List.cons_sublist_cons'] at forward backward
    rcases forward with forward | ⟨rfl, forward⟩ <;> rcases backward with backward | ⟨rfl, backward⟩
    · exact ih distinct forward backward
    · exact absent (forward.subset (by simp))
    · exact absent (backward.subset (by simp))
    · exact absent (forward.subset (by simp))

/-- The members come in the order that sorting those in the order of their numbers gives, where operands that share a
    buffer keep their places. -/
theorem toList_eq_mergeSort (set : OperandSet) :
    set.toList = (Operand.all.filter set.contains).mergeSort inOrder := by
  have transitive : ∀ first second third, inOrder first second = true → inOrder second third = true →
      inOrder first third = true := by
    simp only [Operand.inOrder_iff]
    exact fun _ _ _ => Nat.le_trans
  have total : ∀ first second, (inOrder first second || inOrder second first) = true := by
    simp only [Bool.or_eq_true, Operand.inOrder_iff]
    exact fun _ _ => Nat.le_total _ _
  have nodup : (Operand.all.filter set.contains).Nodup := List.Nodup.filter _ (by decide)
  have sorted := List.pairwise_mergeSort transitive total (Operand.all.filter set.contains)
  have perm := List.mergeSort_perm (Operand.all.filter set.contains) inOrder
  have same : inBindingOrder.Perm Operand.all := by decide
  refine @List.Perm.eq_of_pairwise Operand (fun first second => [first, second].Sublist inBindingOrder) _ _ ?_ ?_ ?_
    ((same.filter _).trans perm.symm)
  · intro first second _ _ forward backward
    exact absurd backward (not_sublist_of_nodup (by decide) forward)
  · exact List.pairwise_iff_forall_sublist.mpr fun both => both.trans List.filter_sublist
  · refine List.pairwise_iff_forall_sublist.mpr ?_
    intro first second both
    have distinct := perm.nodup_iff.mpr nodup
    have different : first ≠ second := by
      rintro rfl
      exact List.nodup_iff_sublist.mp distinct first both
    have placed := Operand.sublist_of_inOrder (List.pairwise_iff_forall_sublist.mp sorted both) different
    refine placed.resolve_right ?_
    rintro ⟨tied, earlier⟩
    have members : ∀ operand ∈ [second, first], set.contains operand = true := by
      intro operand member
      have listed := perm.subset (both.subset (List.mem_pair.mpr (List.mem_pair.mp member).symm))
      exact (List.mem_filter.mp listed).2
    have kept : [second, first].Sublist (Operand.all.filter set.contains) := by
      rw [← List.filter_eq_self.mpr members]
      exact earlier.filter _
    exact not_sublist_of_nodup distinct both (List.pair_sublist_mergeSort transitive total tied kept)

/-! ### Reading -/

/-- Whether a place between commas can be read: it is blank or holds a name. -/
def Readable (piece : String) : Prop :=
  Text.trim piece = "" ∨ ∃ operand : Operand, Text.trim piece = operand.name

/-- Places are read one after the other; each that is not blank adds the operand that it names. -/
theorem foldlM_pieces {pieces : List String} {set result : OperandSet} :
    pieces.foldlM (fun set piece =>
        if (Text.trim piece).isEmpty then Except.ok set else (Operand.parse piece).map set.insert) set = .ok result ↔
      (∀ piece ∈ pieces, Readable piece) ∧ result = (pieces.filterMap Operand.ofName?).foldl insert set := by
  induction pieces generalizing set with
  | nil =>
    rw [List.foldlM_nil, List.filterMap_nil, List.foldl_nil]
    simp only [List.not_mem_nil, IsEmpty.forall_iff, implies_true, true_and]
    exact ⟨fun same => (Except.ok.inj same).symm, fun same => congrArg Except.ok same.symm⟩
  | cons piece rest ih =>
    rw [List.foldlM_cons, List.forall_mem_cons]
    by_cases blank : Text.trim piece = ""
    · have unnamed : Operand.ofName? piece = none := by
        refine Option.eq_none_iff_forall_ne_some.mpr fun operand found => operand.name_ne_empty ?_
        rw [← Operand.ofName?_eq_some_iff.mp found, blank]
      have readable : Readable piece := .inl blank
      rw [List.filterMap_cons_none unnamed, if_pos (by simp [blank])]
      simpa only [readable, true_and, ok_bind] using ih
    · rw [if_neg (by simpa using blank), Operand.parse]
      cases found : Operand.ofName? piece with
      | none =>
        have unreadable : ¬Readable piece := by
          rintro (empty | ⟨operand, named⟩)
          · exact blank empty
          · rw [Operand.ofName?_eq_some_iff.mpr named] at found
            cases found
        simp only [unreadable, false_and, iff_false]
        rintro ⟨⟩
      | some operand =>
        have readable : Readable piece := .inr ⟨operand, Operand.ofName?_eq_some_iff.mp found⟩
        rw [List.filterMap_cons_some found, List.foldl_cons]
        simpa only [readable, true_and, Except.map, ok_bind] using ih

/-- What is read from a text are the operands that it names. -/
theorem parse_eq_ok_iff {text : String} {set : OperandSet} :
    OperandSet.parse text = .ok set ↔
      (∀ piece ∈ Text.pieces ',' text, Readable piece) ∧
        set = ofList ((Text.pieces ',' text).filterMap Operand.ofName?) :=
  foldlM_pieces

theorem mem_named {pieces : List String} {operand : Operand} :
    operand ∈ pieces.filterMap Operand.ofName? ↔ ∃ piece ∈ pieces, Text.trim piece = operand.name := by
  simp only [List.mem_filterMap, Operand.ofName?_eq_some_iff]

/-- A set has the operands of the list it is made from, and no other bit. -/
theorem ofList_spec (operands : List Operand) :
    (ofList operands).Proper ∧ ∀ operand, (ofList operands).contains operand = true ↔ operand ∈ operands := by
  obtain ⟨proper, members⟩ := @foldl_insert empty (by decide) operands
  refine ⟨proper, fun operand => ?_⟩
  have none : empty.contains operand = false := by cases operand <;> rfl
  rw [ofList, members, none, Bool.false_or, decide_eq_true_iff]

/-- Lists with the same members make the same set. -/
theorem ofList_congr {first second : List Operand} (same : ∀ operand, operand ∈ first ↔ operand ∈ second) :
    ofList first = ofList second := by
  refine ext_contains (ofList_spec first).1 (ofList_spec second).1 fun operand => ?_
  rw [Bool.eq_iff_iff, (ofList_spec first).2, (ofList_spec second).2, same]

/-- Texts with the same words, in any order, are read as the same set. -/
theorem parse_of_words {text other : String} (same : ∀ word, word ∈ words text ↔ word ∈ words other) {set : OperandSet}
    (read : OperandSet.parse text = .ok set) : OperandSet.parse other = .ok set := by
  obtain ⟨readable, rfl⟩ := parse_eq_ok_iff.mp read
  refine parse_eq_ok_iff.mpr ⟨fun piece member => ?_, ofList_congr fun operand => ?_⟩
  · by_cases blank : Text.trim piece = ""
    · exact .inl blank
    · obtain ⟨-, source, among, trimmed⟩ := mem_words.mp ((same _).mpr (mem_words.mpr ⟨blank, piece, member, rfl⟩))
      rw [Readable, ← trimmed]
      exact readable source among
  · have words := same operand.name
    simpa only [mem_words, operand.name_ne_empty, ne_eq, not_false_eq_true, true_and, mem_named] using words

/-- A text is read if each of its places between commas is blank or holds the name of an operand, and then as the set
    of the operands named, without the bit that stands for none; every text with the same words is read as that set.
    Of these texts the set has one of its own: the names of its members, each once, those with buffers first and in the
    order of their buffers, as a sort that keeps ties puts them. It is read as the set again. -/
theorem parse_canonical (text : String) :
    ((∃ set, OperandSet.parse text = .ok set) ↔ ∀ piece ∈ Text.pieces ',' text, Readable piece) ∧
      ∀ set, OperandSet.parse text = .ok set →
        (set.Proper ∧ ∀ operand, set.contains operand = true ↔ operand.name ∈ words text) ∧
        (∀ other, (∀ word, word ∈ words text ↔ word ∈ words other) → OperandSet.parse other = .ok set) ∧
        (∃ members : List Operand, members.Nodup ∧ (∀ operand, operand ∈ members ↔ set.contains operand = true) ∧
          members.Pairwise MayPrecede ∧ members = (Operand.all.filter set.contains).mergeSort inOrder ∧
          set.render = Text.joined "," (members.map Operand.name)) ∧
        OperandSet.parse set.render = .ok set := by
  refine ⟨⟨?_, fun readable => ⟨_, parse_eq_ok_iff.mpr ⟨readable, rfl⟩⟩⟩, ?_⟩
  · rintro ⟨set, read⟩
    exact (parse_eq_ok_iff.mp read).1
  · intro set read
    obtain ⟨-, made⟩ := parse_eq_ok_iff.mp read
    obtain ⟨proper, members⟩ := ofList_spec ((Text.pieces ',' text).filterMap Operand.ofName?)
    rw [← made] at proper members
    refine ⟨⟨proper, fun operand => ?_⟩, fun other same => parse_of_words same read,
      ⟨set.toList, set.nodup_toList, fun operand => mem_toList, set.mayPrecede_toList, set.toList_eq_mergeSort, rfl⟩,
      parse_render proper⟩
    rw [members, mem_named, mem_words]
    simp only [operand.name_ne_empty, ne_eq, not_false_eq_true, true_and]

/-- Two operands that share a buffer, with one that is only in registers, out of order and between blanks. -/
theorem parse_canonical_padded :
    OperandSet.parse " S,dST,	dK ,,dST" = .ok ⟨0x0D00⟩ ∧ OperandSet.parse "dK,dST,S" = .ok ⟨0x0D00⟩ ∧
      (⟨0x0D00⟩ : OperandSet).render = "dK,dST,S" := by
  have read : OperandSet.parse " S,dST,	dK ,,dST" = .ok ⟨0x0D00⟩ := by decide +kernel
  have first : words " S,dST,	dK ,,dST" = ["S", "dST", "dK", "dST"] := by decide +kernel
  have second : words "dK,dST,S" = ["dK", "dST", "S"] := by decide +kernel
  obtain ⟨-, same, -, -⟩ := (parse_canonical " S,dST,	dK ,,dST").2 _ read
  refine ⟨read, same _ fun word => ?_, by decide +kernel⟩
  simp only [first, second, List.mem_cons, List.not_mem_nil, or_false]
  tauto

end OperandSet

end KernelForge.Attention
