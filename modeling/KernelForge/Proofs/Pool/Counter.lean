import KernelForge.Pool
import Mathlib.Algebra.Ring.Int.Defs
import Mathlib.Algebra.Ring.Nat
import Mathlib.Data.List.Nodup
import Mathlib.Data.List.Range

/-!
The counter of a pool. It starts at zero and has 64 bits, so without its sign it says how many numbers were taken. With
its sign it is the next number only as long as fewer than 2^63 were: then it is negative, and below every count.
-/

namespace KernelForge

/-- The numbers of jobs among the first ones that are taken. -/
def numbers (count : Int64) (taken : Nat) : List Int64 :=
  (List.range (min taken count.toNatClampNeg)).map Int64.ofNat

theorem ofNat_injective {first second : Nat} (small : first < 2 ^ 63) (other : second < 2 ^ 63)
    (same : Int64.ofNat first = Int64.ofNat second) : first = second := by
  have values := congrArg Int64.toInt same
  rw [Int64.toInt_ofNat_of_lt small, Int64.toInt_ofNat_of_lt other] at values
  exact Int.ofNat_inj.mp values

theorem mem_numbers {count index : Int64} {taken : Nat} :
    index ∈ numbers count taken ↔ (0 ≤ index ∧ index < count) ∧ index.toInt < taken := by
  have few := count.toNatClampNeg_lt
  simp only [numbers, List.mem_map, List.mem_range, Int64.le_iff_toInt_le, Int64.lt_iff_toInt_lt, Int64.toInt_zero]
  rw [← Int64.toNat_toInt] at few ⊢
  constructor
  · rintro ⟨number, below, rfl⟩
    rw [Int64.toInt_ofNat_of_lt (by omega)]
    omega
  · rintro ⟨⟨positive, below⟩, given⟩
    refine ⟨index.toInt.toNat, by omega, ?_⟩
    rw [Int64.toNat_toInt]
    exact index.ofNat_toNatClampNeg (Int64.le_iff_toInt_le.mpr positive)

/-- Once all jobs are given out, all of their numbers are. -/
theorem mem_numbers_of_le {count index : Int64} {taken : Nat} (beyond : count.toNatClampNeg ≤ taken)
    (positive : 0 ≤ index) (below : index < count) : index ∈ numbers count taken := by
  refine mem_numbers.mpr ⟨⟨positive, below⟩, ?_⟩
  rw [Int64.le_iff_toInt_le, Int64.toInt_zero] at positive
  rw [Int64.lt_iff_toInt_lt] at below
  rw [← Int64.toNat_toInt] at beyond
  omega

theorem nodup_numbers (count : Int64) (taken : Nat) : (numbers count taken).Nodup := by
  have few := count.toNatClampNeg_lt
  refine List.Nodup.map_on ?_ List.nodup_range
  intro first firstBelow second secondBelow
  rw [List.mem_range] at firstBelow secondBelow
  exact ofNat_injective (by omega) (by omega)

@[simp]
theorem numbers_zero (count : Int64) : numbers count 0 = [] := by
  rw [numbers, Nat.zero_min, List.range_zero, List.map_nil]

theorem numbers_succ {count : Int64} {taken : Nat} (below : taken < count.toNatClampNeg) :
    numbers count (taken + 1) = numbers count taken ++ [Int64.ofNat taken] := by
  rw [numbers, numbers, Nat.min_eq_left below, Nat.min_eq_left (Nat.le_of_lt below), List.range_succ, List.map_append,
    List.map_singleton]

/-- Once all jobs are given out, there are no more numbers for them. -/
theorem numbers_of_le {count : Int64} {taken : Nat} (beyond : count.toNatClampNeg ≤ taken) :
    numbers count taken = numbers count count.toNatClampNeg := by
  rw [numbers, numbers, Nat.min_eq_right beyond, Nat.min_self]

namespace Progress

variable {count : Int64} {progress : Progress} {worker : Nat}

/-- How many numbers were taken. -/
def taken (progress : Progress) : Nat :=
  progress.next.toUInt64.toNat

theorem ofNat_taken (progress : Progress) : Int64.ofNat progress.taken = progress.next := by
  rw [← progress.next.toInt64_toUInt64, taken]
  exact congrArg UInt64.toInt64 (UInt64.ofNat_toNat)

theorem taken_ofNat {number : Nat} (small : number < 2 ^ 64) (next : progress.next = Int64.ofNat number) :
    progress.taken = number := by
  rw [taken, next]
  exact Nat.mod_eq_of_lt small

theorem next_lt_iff (small : progress.taken < 2 ^ 63) :
    progress.next < count ↔ progress.taken < count.toNatClampNeg := by
  rw [Int64.lt_iff_toInt_lt, ← progress.ofNat_taken, Int64.toInt_ofNat_of_lt small, ← Int64.toNat_toInt]
  omega

theorem taken_claim (small : progress.taken < 2 ^ 63) : (progress.claim count worker).taken = progress.taken + 1 := by
  refine taken_ofNat (by omega) ?_
  rw [claim, Int64.ofNat_add, ofNat_taken]
  rfl

/-! ### What a move changes -/

section Moves

variable (progress : Progress) (job : Int64 → JobOutcome) (index : Int64)

@[simp]
theorem taken_start (workers : Nat) (cause : Option Failure) : (start workers cause).taken = 0 :=
  rfl

theorem workers_look : (progress.look worker).workers =
    progress.workers.set worker (if progress.cause.isSome then .done else .taking) :=
  rfl

@[simp]
theorem taken_look : (progress.look worker).taken = progress.taken :=
  rfl

@[simp]
theorem started_look : (progress.look worker).started = progress.started :=
  rfl

@[simp]
theorem finished_look : (progress.look worker).finished = progress.finished :=
  rfl

theorem workers_claim : (progress.claim count worker).workers =
    progress.workers.set worker (if progress.next < count then .holding progress.next else .done) :=
  rfl

@[simp]
theorem started_claim : (progress.claim count worker).started = progress.started :=
  rfl

@[simp]
theorem finished_claim : (progress.claim count worker).finished = progress.finished :=
  rfl

theorem workers_call : (progress.call worker index).workers = progress.workers.set worker (.busy index) :=
  rfl

@[simp]
theorem taken_call : (progress.call worker index).taken = progress.taken :=
  rfl

@[simp]
theorem started_call : (progress.call worker index).started = progress.started.push index :=
  rfl

@[simp]
theorem finished_call : (progress.call worker index).finished = progress.finished :=
  rfl

theorem workers_finish : (progress.finish job worker index).workers =
    progress.workers.set worker (if (job index).failure.isSome then .done else .ready) :=
  rfl

@[simp]
theorem taken_finish : (progress.finish job worker index).taken = progress.taken :=
  rfl

@[simp]
theorem started_finish : (progress.finish job worker index).started = progress.started :=
  rfl

@[simp]
theorem finished_finish : (progress.finish job worker index).finished = progress.finished.push index :=
  rfl

end Moves

end Progress

end KernelForge
