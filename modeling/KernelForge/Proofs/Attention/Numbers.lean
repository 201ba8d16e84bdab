import Mathlib.Analysis.SpecialFunctions.Log.Base
import Mathlib.Analysis.SpecialFunctions.Pow.Real
import Mathlib.Data.EReal.Inv
import KernelForge.Arithmetic

/-!
Attention over the real numbers. Beside them stands minus infinity: it is the score of a masked column, whose
power of two vanishes, and what the reference takes greatest scores from. Rounding is the identity. The number
that a running maximum starts from is any real number, so nothing can depend on it.
-/

namespace KernelForge

/-- What a run finds in registers and memory before it writes there. -/
class Remains where
  /-- What a running maximum starts from. -/
  lowest : ℝ
  poison : EReal

/-- A power of two. -/
noncomputable def twoTo (exponent : ℝ) : ℝ := 2 ^ exponent

/-- A logarithm to base two. -/
noncomputable def logTwo (value : ℝ) : ℝ := Real.logb 2 value

/-- The logarithm of Euler's number. -/
noncomputable def logTwoEuler : ℝ := logTwo (Real.exp 1)

theorem twoTo_pos (exponent : ℝ) : 0 < twoTo exponent :=
  Real.rpow_pos_of_pos two_pos exponent

theorem twoTo_zero : twoTo 0 = 1 :=
  Real.rpow_zero 2

theorem twoTo_sub (first second : ℝ) : twoTo (first - second) = twoTo first / twoTo second :=
  Real.rpow_sub two_pos first second

theorem twoTo_logTwo {value : ℝ} (positive : 0 < value) : twoTo (logTwo value) = value :=
  Real.rpow_logb two_pos (by norm_num) positive

/-- A logarithm relative to an exponent. -/
theorem add_logTwo_div {value : ℝ} (positive : 0 < value) (exponent : ℝ) :
    exponent + logTwo (value / twoTo exponent) = logTwo value := by
  have power : Real.logb 2 (twoTo exponent) = exponent := Real.logb_rpow two_pos (by norm_num)
  rw [logTwo, Real.logb_div positive.ne' (twoTo_pos exponent).ne', power, add_sub_cancel]
  rfl

theorem logTwoEuler_pos : 0 < logTwoEuler :=
  Real.logb_pos one_lt_two (Real.one_lt_exp_iff.mpr one_pos)

/-- An exponential as a power of two. -/
theorem twoTo_logTwoEuler (exponent : ℝ) : twoTo (logTwoEuler * exponent) = Real.exp exponent := by
  have base : (2 : ℝ) ^ logTwoEuler = Real.exp 1 := twoTo_logTwo (Real.exp_pos 1)
  rw [twoTo, Real.rpow_mul zero_le_two, base, Real.exp_one_rpow]

/-- A natural logarithm brought to base two. -/
theorem log_mul_logTwoEuler (value : ℝ) : Real.log value * logTwoEuler = logTwo value := by
  rw [logTwoEuler, logTwo, Real.logb, Real.log_exp, logTwo, Real.logb, mul_one_div]

namespace Exact

/-- An exponential of real numbers, continued by zero at minus infinity. -/
noncomputable def continued (exponential : ℝ → ℝ) (exponent : EReal) : EReal :=
  if exponent = ⊥ then 0 else if exponent = ⊤ then ⊤ else (exponential exponent.toReal : ℝ)

noncomputable scoped instance extendedScalar : Scalar EReal where
  zero := 0

noncomputable scoped instance extendedRegister [Remains] : SoftmaxRegister EReal where
  poison := Remains.poison
  isOne value := @decide (value = 1) (Classical.propDecidable _)
  round _ value := value
  one := 1
  greater := max
  exceeds first second := @decide (second < first) (Classical.propDecidable _)
  exp2 := continued twoTo
  log2 value := (logTwo value.toReal : ℝ)
  lowest := (Remains.lowest : ℝ)
  mask := ⊥
  forwardScale head := (logTwoEuler / √head : ℝ)
  backwardScale head := (1 / √head : ℝ)

noncomputable scoped instance extendedExponential : Exponential EReal where
  greater := max
  exp := continued Real.exp
  log value := (Real.log value.toReal : ℝ)
  bottom := ⊥
  log2e := (logTwoEuler : ℝ)
  inverseRoot head := (1 / √head : ℝ)

theorem continued_coe (exponential : ℝ → ℝ) (exponent : ℝ) :
    continued exponential exponent = (exponential exponent : ℝ) := by
  simp [continued]

theorem continued_bot (exponential : ℝ → ℝ) : continued exponential ⊥ = (0 : ℝ) :=
  if_pos rfl

theorem max_coe (first second : ℝ) : max (first : EReal) second = (max first second : ℝ) :=
  (EReal.coe_strictMono.monotone.map_max).symm

theorem sum_map_range (term : Nat → ℝ) (count : Nat) :
    ((List.range count).map term).sum = ∑ index ∈ Finset.range count, term index :=
  (Multiset.sum_coe _).symm

variable {ι : Type}

theorem sum_coe (term : ι → ℝ) (items : List ι) :
    Scalar.sum (items.map fun item => (term item : EReal)) = ((items.map term).sum : ℝ) := by
  have onward : ∀ held : ℝ, (items.map fun item => (term item : EReal)).foldl (· + ·) (held : EReal) =
      ((held + (items.map term).sum : ℝ) : EReal) := by
    induction items with
    | nil => simp
    | cons head tail ih =>
      intro held
      rw [List.map_cons, List.foldl_cons, ← EReal.coe_add, ih, List.map_cons, List.sum_cons, add_assoc]
  have total := onward 0
  rw [zero_add] at total
  exact total

end Exact

/-- Pieces of a list, put together again. -/
theorem eights_flatten {ι : Type} (items : List ι) : (eights items).flatten = items := by
  fun_induction eights items with
  | case1 => rfl
  | case2 first rest ih =>
    rw [List.flatten_cons, ih, List.cons_append, List.take_append_drop]

theorem eights_map {ι κ : Type} (f : ι → κ) (items : List ι) :
    eights (items.map f) = (eights items).map (List.map f) := by
  fun_induction eights items with
  | case1 => simp [eights]
  | case2 first rest ih =>
    rw [List.map_cons, eights, ← List.map_drop, ih, ← List.map_take]
    rfl

section Rows

variable {α ι : Type}

/-- A sum of weighted rows is a row of sums. -/
theorem Scalar.weightedSum_map [Scalar α] (width : Nat) (weight : ι → α) (entry : ι → Nat → α) (items : List ι) :
    Scalar.weightedSum width (items.map fun item => (weight item, (List.range width).map (entry item))) =
      (List.range width).map fun x => Scalar.sum (items.map fun item => weight item * entry item x) := by
  have onward : ∀ held : Nat → α,
      (items.map fun item => (weight item, (List.range width).map (entry item))).foldl
        (fun held term => List.zipWith (fun sum value => sum + term.1 * value) held term.2)
        ((List.range width).map held) =
          (List.range width).map fun x =>
            (items.map fun item => weight item * entry item x).foldl (· + ·) (held x) := by
    induction items with
    | nil => simp
    | cons head tail ih =>
      intro held
      rw [List.map_cons, List.foldl_cons, List.zipWith_map, List.zipWith_self, ih]
      rfl
  have total := onward fun _ => Scalar.zero
  rw [List.map_const', List.length_range] at total
  exact total

/-- Each register of a row is summed on its own. -/
theorem Register.accumulateRows_map [Register α] (precision : Precision) (width : Nat) (register : Nat → α)
    (weight : ι → α) (entry : ι → Nat → α) (items : List ι) :
    Register.accumulateRows precision ((List.range width).map register)
      (items.map fun item => (weight item, (List.range width).map (entry item))) =
        (List.range width).map fun x =>
          Register.accumulate precision (register x) (items.map fun item => weight item * entry item x) := by
  have pieces : ∀ (parts : List (List ι)) (held : Nat → α),
      (parts.map (List.map fun item => (weight item, (List.range width).map (entry item)))).foldl
        (fun held piece => List.zipWith (fun register sum => Register.round precision (register + sum)) held
          (Scalar.weightedSum width piece)) ((List.range width).map held) =
          (List.range width).map fun x => (parts.map (List.map fun item => weight item * entry item x)).foldl
            (fun held piece => Register.round precision (held + Scalar.sum piece)) (held x) := by
    intro parts
    induction parts with
    | nil => simp
    | cons head tail ih =>
      intro held
      rw [List.map_cons, List.foldl_cons, Scalar.weightedSum_map, List.zipWith_map, List.zipWith_self, ih]
      rfl
  unfold Register.accumulateRows Register.accumulate
  rw [eights_map, List.length_map, List.length_range, pieces]
  simp only [eights_map]

end Rows

namespace Exact

variable [Remains] {ι : Type}

theorem accumulate_coe (precision : Precision) (register : ℝ) (term : ι → ℝ) (items : List ι) :
    Register.accumulate precision (register : EReal) (items.map fun item => (term item : EReal)) =
      ((register + (items.map term).sum : ℝ) : EReal) := by
  have pieces : ∀ (parts : List (List ι)) (held : ℝ),
      (parts.map (List.map fun item => (term item : EReal))).foldl
        (fun held piece => Register.round precision (held + Scalar.sum piece)) (held : EReal) =
          ((held + (parts.flatten.map term).sum : ℝ) : EReal) := by
    intro parts
    induction parts with
    | nil => simp
    | cons head tail ih =>
      intro held
      have step : Register.round precision ((held : EReal) + ((head.map term).sum : ℝ)) =
          ((held + (head.map term).sum : ℝ) : EReal) := (EReal.coe_add _ _).symm
      rw [List.map_cons, List.foldl_cons, sum_coe, step, ih, List.flatten_cons, List.map_append,
        List.sum_append, add_assoc]
  unfold Register.accumulate
  rw [eights_map, pieces, eights_flatten]

/-- A row of real numbers. -/
noncomputable def realRow (width : Nat) (entry : Nat → ℝ) : List EReal :=
  (List.range width).map fun index => (entry index : EReal)

/-- Rows of real numbers. -/
noncomputable def realRows (count width : Nat) (matrix : Nat → Nat → ℝ) : List (List EReal) :=
  (List.range count).map fun index => realRow width (matrix index)

omit [Remains] in
theorem getElem?_realRow {width index : Nat} (entry : Nat → ℝ) (inside : index < width) :
    (realRow width entry)[index]? = some (entry index : EReal) := by
  simp [realRow, inside]

omit [Remains] in
theorem zipWith_realRow (combine : EReal → EReal → EReal) (width : Nat) (first second result : Nat → ℝ)
    (each : ∀ index, combine (first index) (second index) = result index) :
    List.zipWith combine (realRow width first) (realRow width second) = realRow width result := by
  simp [realRow, List.zipWith_map, List.zipWith_self, each]

omit [Remains] in
theorem products_realRow (width : Nat) (first second : Nat → ℝ) :
    List.zipWith (· * ·) (realRow width first) (realRow width second) =
      realRow width fun index => first index * second index :=
  zipWith_realRow _ width first second _ fun _ => (EReal.coe_mul _ _).symm

omit [Remains] in
theorem replicate_realRow (width : Nat) : List.replicate width (Scalar.zero : EReal) = realRow width fun _ => 0 := by
  simp only [realRow, List.map_const', List.length_range]
  rfl

omit [Remains] in
theorem scalarDot_realRow (width : Nat) (first second : Nat → ℝ) :
    Scalar.dot (realRow width first) (realRow width second) =
      ((∑ index ∈ Finset.range width, first index * second index : ℝ) : EReal) := by
  rw [← sum_map_range]
  unfold Scalar.dot
  rw [products_realRow]
  exact sum_coe _ _

theorem dot_realRow (precision : Precision) (width : Nat) (first second : Nat → ℝ) :
    Register.dot precision (realRow width first) (realRow width second) =
      ((∑ index ∈ Finset.range width, first index * second index : ℝ) : EReal) := by
  have total := accumulate_coe precision 0 (fun index => first index * second index) (List.range width)
  rw [zero_add, sum_map_range] at total
  unfold Register.dot
  rw [products_realRow]
  exact total

theorem scaleRow_realRow (precision : Precision) (factor : ℝ) (width : Nat) (entry : Nat → ℝ) :
    Register.scaleRow precision (factor : EReal) (realRow width entry) =
      realRow width fun index => entry index * factor := by
  simp only [Register.scaleRow, realRow, List.map_map]
  refine List.map_congr_left fun index _ => ?_
  exact (EReal.coe_mul _ _).symm

omit [Remains] in
theorem weightedSum_realRow (width : Nat) (weight : ι → ℝ) (entry : ι → Nat → ℝ) (items : List ι) :
    Scalar.weightedSum width (items.map fun item => ((weight item : EReal), realRow width (entry item))) =
      realRow width fun index => (items.map fun item => weight item * entry item index).sum := by
  refine (Scalar.weightedSum_map width (fun item => (weight item : EReal))
    (fun item index => (entry item index : EReal)) items).trans (List.map_congr_left fun index _ => ?_)
  rw [← sum_coe]
  simp only [EReal.coe_mul]

theorem accumulateRows_realRow (precision : Precision) (width : Nat) (register : Nat → ℝ) (weight : ι → ℝ)
    (entry : ι → Nat → ℝ) (items : List ι) :
    Register.accumulateRows precision (realRow width register)
      (items.map fun item => ((weight item : EReal), realRow width (entry item))) =
        realRow width fun index => register index + (items.map fun item => weight item * entry item index).sum := by
  refine (Register.accumulateRows_map precision width (fun index => (register index : EReal))
    (fun item => (weight item : EReal)) (fun item index => (entry item index : EReal)) items).trans
    (List.map_congr_left fun index _ => ?_)
  rw [← accumulate_coe precision]
  simp only [EReal.coe_mul]

/-- The rows of a step go into a sum of weighted rows. -/
theorem accumulateRows_step (precision : Precision) (width start step : Nat) (weight : Nat → ℝ)
    (entry : Nat → Nat → ℝ) :
    Register.accumulateRows precision
      (realRow width fun x => ∑ index ∈ Finset.range start, weight index * entry index x)
      ((realRow step fun offset => weight (start + offset)).zip
        (realRows step width fun offset => entry (start + offset))) =
      realRow width fun x => ∑ index ∈ Finset.range (start + step), weight index * entry index x := by
  rw [realRows, realRow, realRow, List.zip_map', ← realRow, accumulateRows_realRow]
  simp only [sum_map_range, Finset.sum_range_add]

end Exact

end KernelForge
