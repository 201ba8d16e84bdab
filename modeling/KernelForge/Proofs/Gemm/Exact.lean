import Mathlib.Algebra.BigOperators.Intervals
import Mathlib.Algebra.Ring.Int.Defs
import KernelForge.Gemm.Reference
import KernelForge.Proofs.Gemm.Product

/-!
The product in exact arithmetic. Over a commutative ring, with rounding as the identity, the recurrence of an
element is the sum over its depth, and the order in which bias, previous element and slices come does not
matter. So a run leaves what the reference computes.
-/

namespace KernelForge

/-- A commutative ring as registers: sums and products are exact, and no format changes a number. What memory
    holds that nobody wrote may be any element. -/
noncomputable scoped instance Exact.register (R : Type) [CommRing R] [Inhabited R] : Register R where
  zero := 0
  poison := default
  isOne value := @decide (value = 1) (Classical.propDecidable _)
  round _ value := value

open scoped Exact

scoped instance Exact.lawfulRounding (R : Type) [CommRing R] [Inhabited R] : LawfulRounding R where
  round_zero _ := rfl
  round_round _ _ := rfl

theorem foldl_range_add {M : Type} [AddCommMonoid M] (term : Nat → M) (count : Nat) :
    (List.range count).foldl (fun sum index => sum + term index) 0 = ∑ index ∈ Finset.range count, term index := by
  induction count with
  | zero => rfl
  | succ count ih =>
    rw [List.range_succ, List.foldl_append, ih, Finset.sum_range_succ]
    rfl

namespace Gemm

variable {R : Type} [CommRing R] [Inhabited R] (launch : Launch R)

namespace Launch

/-- A term of the sum of an element. -/
noncomputable def term (row column depth : Nat) : R :=
  launch.entry .a row depth * launch.entry .b depth column

theorem slice_exact (row column index : Nat) :
    launch.slice row column index = ∑ step ∈ Finset.range 8,
      launch.leftFactor row (8 * index + step) * launch.rightFactor (8 * index + step) column :=
  foldl_range_add _ 8

theorem factors_exact (row column depth : Nat) :
    launch.leftFactor row depth * launch.rightFactor depth column =
      if depth < launch.k then launch.term row column depth else 0 := by
  by_cases inside : depth < launch.k
  · rw [if_pos inside, leftFactor_of_lt inside, rightFactor_of_lt inside]
    rfl
  · simp only [leftFactor, rightFactor, if_neg inside]
    exact mul_zero _

theorem accumulated_exact (row column count : Nat) :
    launch.accumulated row column count = launch.biased row column +
      ∑ depth ∈ Finset.range (8 * count), if depth < launch.k then launch.term row column depth else 0 := by
  induction count with
  | zero => exact (add_zero _).symm
  | succ count ih =>
    have step : launch.accumulated row column (count + 1) =
        launch.accumulated row column count + launch.slice row column count := rfl
    simp only [slice_exact, factors_exact] at step
    rw [step, ih, Nat.mul_succ, Finset.sum_range_add, add_assoc]

/-- An element of the product as a sum over its depth. -/
theorem productEntry_exact (row column : Nat) :
    launch.productEntry row column = launch.biased row column +
      ∑ depth ∈ Finset.range launch.k, launch.term row column depth := by
  have covered : launch.k ≤ 8 * stepCount launch.k 8 := by
    have reach : launch.k ≤ stepCount launch.k 8 * 8 := le_stepCount_mul (by decide)
    omega
  have whole : launch.productEntry row column = launch.accumulated row column (stepCount launch.k 8) := rfl
  rw [whole, accumulated_exact]
  congr 1
  rw [← Finset.sum_subset (Finset.range_subset_range.mpr covered)]
  · exact Finset.sum_congr rfl fun depth inside => if_pos (Finset.mem_range.mp inside)
  · intro depth _ outside
    exact if_neg fun inside => outside (Finset.mem_range.mpr inside)

theorem biased_exact (ready : launch.Ready) (row column : Nat) :
    launch.biased row column = launch.initial row column +
      if launch.problem.bias.axis = .rows then launch.biasEntry row
      else if launch.problem.bias.axis = .columns then launch.biasEntry column else 0 := by
  rcases ready.regular.bias with none | rows | columns
  · have problem := ready.biasAxis ▸ none
    simp only [biased, none, problem]
    exact (add_zero _).symm
  · have problem := ready.biasAxis ▸ rows
    simp only [biased, rows, problem]
    rfl
  · have problem := ready.biasAxis ▸ columns
    simp only [biased, columns, problem]
    rfl

theorem initial_exact (row column : Nat) :
    launch.initial row column =
      if launch.problem.loadPreviousC then launch.buffers.scale * launch.entry .c row column else 0 := by
  unfold initial
  split
  · by_cases one : launch.buffers.scale = 1
    · have kept : launch.previous row column = launch.entry .c row column :=
        if_pos (@decide_eq_true _ (Classical.propDecidable _) one)
      rw [kept, one, one_mul]
    · have scaled : launch.previous row column = launch.entry .c row column * launch.buffers.scale :=
        if_neg fun isOne => one (@of_decide_eq_true _ (Classical.propDecidable _) isOne)
      rw [scaled, mul_comm]
  · rfl

theorem sum_read (ready : launch.Ready) {row column : Nat} (inRows : row < launch.m) (inColumns : column < launch.n) :
    countUp (fun held depth => do
      let left ← readCell launch.buffers.a (launch.problem.position .a row depth)
      let right ← readCell launch.buffers.b (launch.problem.position .b depth column)
      return held + left * right) launch.k 0 Scalar.zero =
        .ok (∑ depth ∈ Finset.range launch.k, launch.term row column depth) := by
  obtain ⟨last, summed, total⟩ := countUp_total
    (fun held depth => do
      let left ← readCell launch.buffers.a (launch.problem.position .a row depth)
      let right ← readCell launch.buffers.b (launch.problem.position .b depth column)
      return held + left * right)
    (fun count held => held = ∑ depth ∈ Finset.range count, launch.term row column depth) launch.k 0
    (by
      rintro depth - inside held rfl
      rw [Nat.zero_add] at inside
      have left := read_entry ready .a inRows inside
      have right := read_entry ready .b inside inColumns
      simp only [Buffers.get] at left right
      refine ⟨_, ?_, rfl⟩
      rw [left, ok_bind, right, ok_bind, Finset.sum_range_succ]
      rfl)
    Scalar.zero rfl
  rw [summed, total, Nat.zero_add]

theorem addPrevious_exact (ready : launch.Ready) {row column : Nat} (inRows : row < launch.m)
    (inColumns : column < launch.n) (value : R) :
    addPrevious launch.problem launch.buffers row column value = .ok (value + launch.initial row column) := by
  rw [initial_exact]
  unfold addPrevious
  split
  · have read := read_entry ready .c inRows inColumns
    simp only [Buffers.get] at read
    rw [read]
    rfl
  · rw [add_zero]
    rfl

theorem read_bias {index : Nat} (inside : index < launch.buffers.bias.size) :
    readCell launch.buffers.bias index = .ok (launch.biasEntry index) := by
  obtain ⟨value, found, read⟩ := readCell_total inside
  simp only [biasEntry, found]
  exact read

theorem addBias_exact (ready : launch.Ready) {row column : Nat} (inRows : row < launch.m)
    (inColumns : column < launch.n) (value : R) :
    addBias launch.problem launch.buffers.bias row column value = .ok (value +
      if launch.problem.bias.axis = .rows then launch.biasEntry row
      else if launch.problem.bias.axis = .columns then launch.biasEntry column else 0) := by
  have long := ready.bias
  unfold Problem.biasSize at long
  unfold addBias
  split
  · rename_i rows
    rw [if_pos rows] at long
    rw [read_bias launch (Nat.lt_of_lt_of_le inRows long)]
    rfl
  · rename_i rows
    rw [if_neg rows] at long
    split
    · rename_i columns
      rw [if_pos columns] at long
      rw [read_bias launch (Nat.lt_of_lt_of_le inColumns long)]
      rfl
    · rw [add_zero]
      rfl

/-- The reference computes the same sum, in another order. -/
theorem element_exact (ready : launch.Ready) {row column : Nat} (inRows : row < launch.m)
    (inColumns : column < launch.n) :
    element launch.problem launch.buffers row column = .ok (launch.productEntry row column) := by
  have sum := sum_read launch ready inRows inColumns
  rw [productEntry_exact, biased_exact launch ready, add_comm, ← add_assoc]
  unfold element
  rw [show launch.problem.extents.k.toNat = launch.k from rfl, sum, ok_bind,
    addPrevious_exact launch ready inRows inColumns, ok_bind, addBias_exact launch ready inRows inColumns]

/-- The first elements of the product, row by row. -/
def Filled (count : Nat) (held : Array R) : Prop :=
  held.size = count ∧
    ∀ index < count, held[index]? = some (launch.productEntry (index / launch.n) (index % launch.n))

theorem Filled.push {launch : Launch R} {row column : Nat} {held : Array R} (inColumns : column < launch.n)
    (filled : launch.Filled (row * launch.n + column) held) :
    launch.Filled (row * launch.n + (column + 1)) (held.push (launch.productEntry row column)) := by
  obtain ⟨size, content⟩ := filled
  obtain ⟨-, quotient, rest⟩ := rectangle_index (Nat.lt_succ_self row) inColumns
  refine ⟨by rw [Array.size_push, size]; rfl, ?_⟩
  intro index below
  rw [← Nat.add_assoc] at below
  rcases Nat.lt_succ_iff_lt_or_eq.mp below with before | rfl
  · rw [Array.getElem?_push_lt (size ▸ before), ← Array.getElem?_eq_getElem, content index before]
  · rw [quotient, rest, ← size]
    exact Array.getElem?_push_size

/-- The reference returns the elements row by row, packed. -/
theorem multiply_exact (admissible : launch.Admissible) :
    ∃ reference, multiply launch.problem launch.buffers = .ok reference ∧
      ∀ row < launch.m, ∀ column < launch.n,
        reference[row * launch.n + column]? = some (launch.productEntry row column) := by
  have ready := admissible.ready
  have checked := launch.problem.checkBuffers_ok launch.buffers launch.problem.loadPreviousC
    (fun operand _ => admissible.matrices operand) admissible.bias
  obtain ⟨reference, filled, -, content⟩ := countUp_total
    (fun rows row => countUp (fun held column => do
      return held.push (← element launch.problem launch.buffers row column)) launch.n 0 rows)
    (fun row held => launch.Filled (row * launch.n) held) launch.m 0
    (by
      rintro row - inRows held start
      rw [Nat.zero_add] at inRows
      obtain ⟨last, pushed, kept⟩ := countUp_total
        (fun held column => do
          return held.push (← element launch.problem launch.buffers row column))
        (fun column held => launch.Filled (row * launch.n + column) held) launch.n 0
        (by
          rintro column - inColumns held filled
          rw [Nat.zero_add] at inColumns
          rw [element_exact launch ready inRows inColumns, ok_bind]
          exact ⟨_, rfl, filled.push inColumns⟩)
        held start
      refine ⟨last, pushed, ?_⟩
      rwa [Nat.zero_add, ← Nat.succ_mul] at kept)
    #[] ⟨by simp, by simp⟩
  rw [Nat.zero_add] at content
  refine ⟨reference, ?_, ?_⟩
  · unfold multiply
    rw [checked, ok_bind]
    exact filled
  · intro row inRows column inColumns
    obtain ⟨below, quotient, rest⟩ := rectangle_index inRows inColumns
    rw [content _ below, quotient, rest]

end Launch

/-- In exact arithmetic a run leaves the product that the reference computes from the same buffers. -/
theorem run_eq_multiply (admissible : launch.Admissible) :
    ∃ product reference, launch.run = .ok product ∧ multiply launch.problem launch.buffers = .ok reference ∧
      ∀ row < launch.m, ∀ column < launch.n, ∃ value,
        product[row * launch.problem.strides.c.toNat + column]? = some value ∧
          reference[row * launch.n + column]? = some value := by
  obtain ⟨product, ran, written⟩ := Launch.run_written admissible
  obtain ⟨reference, multiplied, content⟩ := launch.multiply_exact admissible
  refine ⟨product, reference, ran, multiplied, ?_⟩
  intro row inRows column inColumns
  obtain ⟨value, found, correct⟩ := written.written _ ⟨row, inRows, column, inColumns, rfl⟩
  refine ⟨value, found, ?_⟩
  rw [correct row inRows column inColumns rfl]
  exact content row inRows column inColumns

/-- An integer product with both factors transposed, strides of its own, a bias for each column and three times
    the previous product, on a kernel whose block is larger than the matrices. -/
def integerLaunch : Launch Int where
  kernel := {
    descriptor := {
      block := ⟨16, 16, 8⟩
      memory := ⟨.fp32, .fp32, .fp32⟩
      register := ⟨.fp32, .fp32, .fp32⟩
      splits := ⟨2, 1⟩
      transpose := ⟨true, true⟩
      bias := ⟨.columns, .fp32⟩ }
    registerM := 8
    registerN := 16
    leading := ⟨16, 8, 16⟩
    threadgroupMemory := 1024
    threadgroupSize := 64 }
  problem := {
    extents := ⟨3, 2, 5⟩
    memory := ⟨.fp32, .fp32, .fp32⟩
    transpose := ⟨true, true⟩
    leading := ⟨4, 6, 7⟩
    loadPreviousC := true
    bias := ⟨.columns, .fp32⟩ }
  buffers := ⟨((List.range 19).map Int.ofNat).toArray, Array.replicate 11 (-2), Array.replicate 16 1, #[5, 7], 3⟩

theorem run_eq_multiply_integers :
    ∃ product reference, integerLaunch.run = .ok product ∧
      multiply integerLaunch.problem integerLaunch.buffers = .ok reference ∧
        ∀ row < integerLaunch.m, ∀ column < integerLaunch.n, ∃ value,
          product[row * integerLaunch.problem.strides.c.toNat + column]? = some value ∧
            reference[row * integerLaunch.n + column]? = some value := by
  refine run_eq_multiply integerLaunch ?_
  exact {
    made := ⟨integerLaunch.kernel.descriptor, by decide +kernel⟩
    splits := by decide
    memory := rfl
    transpose := rfl
    biasAxis := rfl
    extents := by decide
    grid := by decide
    stride := by decide
    matrices := by rintro (_ | _ | _) <;> decide
    bias := by decide }

end Gemm

end KernelForge
