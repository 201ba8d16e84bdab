import KernelForge.Proofs.Pool.Counter

/-!
The schedule in which workers take turns: the first one does every job, and each of the others finds that no number is
left. Every worker takes one number too many, so with more workers than the counter can still tell apart from the jobs,
one of them is given a negative number, and starts a job that nobody asked for.
-/

namespace KernelForge

namespace Progress

variable {count : Int64} {job : Int64 → JobOutcome}

theorem run_append (progress : Progress) (first second : List Nat) :
    progress.run count job (first ++ second) = (progress.run count job first).run count job second :=
  List.foldl_append

/-- The jobs up to a number are done, and no other one is under way. -/
def doneUpTo (count : Int64) (taken : Nat) (next : Int64) (workers : List Worker) : Progress where
  next := next
  workers := workers
  started := (numbers count taken).toArray
  finished := (numbers count taken).toArray

theorem step_ready {taken worker : Nat} {next : Int64} {workers : List Worker} (free : workers[worker]? = some .ready) :
    (doneUpTo count taken next workers).step count job worker =
      doneUpTo count taken next (workers.set worker .taking) := by
  simp only [step, doneUpTo, free]
  rfl

theorem step_taking {taken worker : Nat} {next : Int64} {workers : List Worker}
    (free : workers[worker]? = some .taking) :
    (doneUpTo count taken next workers).step count job worker =
      doneUpTo count taken (next + 1) (workers.set worker (if next < count then .holding next else .done)) := by
  simp only [step, doneUpTo, free]
  rfl

/-- All jobs are done, the first workers have stopped, and the others have not looked yet. -/
def allDone (count : Int64) (stopped free : Nat) : Progress :=
  doneUpTo count count.toNatClampNeg (Int64.ofNat (count.toNatClampNeg + stopped))
    (List.replicate stopped .done ++ List.replicate free .ready)

/-- The worker behind those that stopped. -/
theorem getElem?_behind (stopped : Nat) (state : Worker) (rest : List Worker) :
    (List.replicate stopped Worker.done ++ state :: rest)[stopped]? = some state := by
  simp

theorem set_behind (stopped : Nat) (state other : Worker) (rest : List Worker) :
    (List.replicate stopped Worker.done ++ state :: rest).set stopped other =
      List.replicate stopped .done ++ other :: rest := by
  simp [List.set_append_right]

/-- A worker looks and takes a number when all jobs are done. -/
theorem run_allDone (stopped free : Nat) :
    (allDone count stopped (free + 1)).run count job [stopped, stopped] =
      doneUpTo count count.toNatClampNeg (Int64.ofNat (count.toNatClampNeg + (stopped + 1)))
        (List.replicate stopped .done ++
          (if Int64.ofNat (count.toNatClampNeg + stopped) < count then
            .holding (Int64.ofNat (count.toNatClampNeg + stopped)) else .done) :: List.replicate free .ready) := by
  have one : Int64.ofNat (count.toNatClampNeg + (stopped + 1)) = Int64.ofNat (count.toNatClampNeg + stopped) + 1 :=
    Int64.ofNat_add _ 1
  calc (allDone count stopped (free + 1)).run count job [stopped, stopped]
      = ((allDone count stopped (free + 1)).step count job stopped).step count job stopped := rfl
    _ = _ := by
        rw [allDone, List.replicate_succ, step_ready (getElem?_behind ..), set_behind,
          step_taking (getElem?_behind ..), set_behind, one]

/-- A worker finds that no number is left. -/
theorem run_allDone_stops {stopped : Nat} (free : Nat) (fits : count.toNatClampNeg + stopped < 2 ^ 63) :
    (allDone count stopped (free + 1)).run count job [stopped, stopped] = allDone count (stopped + 1) free := by
  have beyond : ¬Int64.ofNat (count.toNatClampNeg + stopped) < count := by
    rw [Int64.lt_iff_toInt_lt, Int64.toInt_ofNat_of_lt fits, ← Int64.toNat_toInt]
    omega
  rw [run_allDone, if_neg beyond, allDone, List.replicate_succ', List.append_assoc]
  rfl

/-- As long as the counter can still count, every worker but the first finds that no number is left. -/
theorem run_others {stopped : Nat} (free : Nat) (fits : count.toNatClampNeg + (stopped + 1) ≤ 2 ^ 63) :
    (allDone count 1 (stopped + free)).run count job
      ((List.range (stopped + 1)).flatMap fun worker => [worker, worker]) = allDone count (stopped + 1) free := by
  induction stopped generalizing free with
  | zero =>
    rw [Nat.zero_add]
    rfl
  | succ stopped ih =>
    rw [List.range_succ, List.flatMap_append, run_append, Nat.succ_add_eq_add_succ, ih (free + 1) (by omega)]
    exact run_allDone_stops free (by omega)

section Calm

variable (calm : ∀ index, 0 ≤ index → index < count → job index = {})

include calm

/-- The first worker does the jobs from the first one on. -/
theorem run_firstWorker (free taken : Nat) (few : taken ≤ count.toNatClampNeg) :
    (start (free + 1) none).run count job (List.replicate (4 * taken) 0) =
      doneUpTo count taken (Int64.ofNat taken) (List.replicate (free + 1) .ready) := by
  induction taken with
  | zero => simp [run, start, doneUpTo]
  | succ taken ih =>
    have four : List.replicate (4 * (taken + 1)) 0 = List.replicate (4 * taken) 0 ++ [0, 0, 0, 0] := by
      rw [Nat.mul_succ, List.replicate_add]
      rfl
    have given : Int64.ofNat taken ∈ numbers count (taken + 1) := by simp [numbers_succ few]
    obtain ⟨⟨positive, below⟩, -⟩ := mem_numbers.mp given
    rw [four, run_append, ih (Nat.le_of_succ_le few), Int64.ofNat_add]
    simp [run, step, look, claim, call, finish, doneUpTo, numbers_succ few, List.replicate_succ, below,
      calm _ positive below]

/-- The workers take turns, and as many of them as the counter allows have stopped. -/
theorem run_oneByOne {stopped : Nat} (free : Nat) (fits : count.toNatClampNeg + (stopped + 1) ≤ 2 ^ 63) :
    (start (stopped + free + 1) none).run count job (Pool.oneByOne (stopped + 1) count.toNatClampNeg) =
      allDone count (stopped + 1) free := by
  have first : (start (stopped + free + 1) none).run count job (List.replicate (4 * count.toNatClampNeg) 0) =
      allDone count 0 (stopped + free + 1) := run_firstWorker calm _ _ (Nat.le_refl _)
  have last : (allDone count 0 (stopped + free + 1)).run count job (List.replicate 2 0) =
      allDone count 1 (stopped + free) := run_allDone_stops _ (by omega)
  rw [Pool.oneByOne, List.replicate_add, run_append, run_append, first, last, run_others free fits]

/-- A worker that takes a number when the counter has wrapped starts the job with a negative one. -/
theorem run_oneByOne_negative {stopped : Nat} (free : Nat) (positive : 0 < count)
    (full : count.toNatClampNeg + (stopped + 1) = 2 ^ 63) :
    (start (stopped + (free + 1) + 1) none).run count job
        (Pool.oneByOne (stopped + 1) count.toNatClampNeg ++ [stopped + 1, stopped + 1, stopped + 1]) =
      { doneUpTo count count.toNatClampNeg (Int64.minValue + 1)
          (List.replicate (stopped + 1) .done ++ .busy Int64.minValue :: List.replicate free .ready) with
        started := (numbers count count.toNatClampNeg).toArray.push Int64.minValue } := by
  have least : Int64.ofNat (2 ^ 63) = Int64.minValue := rfl
  have below : Int64.minValue < count := Int64.lt_trans (by decide) positive
  calc (start (stopped + (free + 1) + 1) none).run count job
        (Pool.oneByOne (stopped + 1) count.toNatClampNeg ++ [stopped + 1, stopped + 1, stopped + 1])
      = ((allDone count (stopped + 1) (free + 1)).run count job [stopped + 1, stopped + 1]).step count job
          (stopped + 1) := by
        rw [run_append, run_oneByOne calm (free + 1) (Nat.le_of_eq full)]
        rfl
    _ = (doneUpTo count count.toNatClampNeg (Int64.minValue + 1) (List.replicate (stopped + 1) .done ++
          .holding Int64.minValue :: List.replicate free .ready)).step count job (stopped + 1) := by
        rw [run_allDone, ← Nat.add_assoc, full, Int64.ofNat_add, least, if_pos below]
        rfl
    _ = _ := by
        rw [step, doneUpTo, getElem?_behind]
        simp only [call, set_behind]
        rfl

/-- If that job fails and nobody is left, its failure is what the work ends with, although all jobs were done. -/
theorem run_oneByOne_fails {stopped : Nat} (positive : 0 < count)
    (full : count.toNatClampNeg + (stopped + 1) = 2 ^ 63) {failure : Failure}
    (fails : job Int64.minValue = { failure := some failure }) :
    ∃ schedule, ((start (stopped + 1 + 1) none).run count job schedule).isOver = true ∧
      ((start (stopped + 1 + 1) none).run count job schedule).cause = some failure ∧
        ∀ index, 0 ≤ index → index < count →
          index ∈ ((start (stopped + 1 + 1) none).run count job schedule).started.toList := by
  refine ⟨Pool.oneByOne (stopped + 1) count.toNatClampNeg ++ [stopped + 1, stopped + 1, stopped + 1] ++ [stopped + 1],
    ?_⟩
  have last : (start (stopped + 1 + 1) none).run count job
      (Pool.oneByOne (stopped + 1) count.toNatClampNeg ++ [stopped + 1, stopped + 1, stopped + 1] ++ [stopped + 1]) =
      { next := Int64.minValue + 1
        workers := List.replicate (stopped + 1) .done ++ [.done]
        started := (numbers count count.toNatClampNeg).toArray.push Int64.minValue
        finished := (numbers count count.toNatClampNeg).toArray.push Int64.minValue
        cause := some failure } := by
    rw [run_append, run_oneByOne_negative calm 0 positive full, run, List.foldl_cons, List.foldl_nil, step, doneUpTo,
      getElem?_behind]
    simp [finish, fails, List.set_append_right]
  rw [last]
  refine ⟨by simp [isOver], rfl, fun index inside below => ?_⟩
  simp [mem_numbers_of_le (Nat.le_refl _) inside below]

end Calm

end Progress

end KernelForge
