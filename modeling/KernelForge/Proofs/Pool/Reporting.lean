import KernelForge.Proofs.Pool.Sharing

/-!
What a pool reports about jobs of which some fail. The first failure calls the work off, and workers look for that
before they take a number but not after: a number that was taken always has its job started. So a worker stops because
the numbers are used up or because a job has failed, and when all of them stopped there is nothing to report exactly if
every job was started and none failed. Otherwise the report is the failure of the job that ended first among those that
failed, whatever the schedule. The counter has to count the jobs and the workers together for this too.
-/

namespace KernelForge

/-- Jobs that end with given results, while their caller never calls the work off. -/
def endingWith (result : Int64 → Option Failure) : Int64 → JobOutcome :=
  fun index => { failure := result index }

namespace Progress

/-- What holds between any two moves on such jobs. -/
structure Reporting (count : Int64) (result : Int64 → Option Failure) (progress : Progress) : Prop where
  accounted : progress.Accounted count
  /-- The work was called off by the first failure among the jobs that ended. -/
  first : progress.cause = progress.finished.toList.findSome? result
  /-- A worker stopped because the numbers were used up or the work was called off. -/
  stopped : .done ∈ progress.workers → count.toNatClampNeg ≤ progress.taken ∨ progress.cause.isSome = true

variable {count : Int64} {result : Int64 → Option Failure} {progress : Progress} {worker : Nat}

theorem reporting_start {workers : Nat} (room : count.toNatClampNeg + workers ≤ 2 ^ 63)
    (result : Int64 → Option Failure) : Reporting count result (start workers none) where
  accounted := accounted_start room none
  first := rfl
  stopped done := by simp [start, List.mem_replicate] at done

/-- A worker that stopped at a move, or earlier. -/
theorem done_of_mem_set {workers : List Worker} {state : Worker} (member : .done ∈ workers.set worker state) :
    .done ∈ workers ∨ state = .done := by
  rcases List.mem_or_eq_of_mem_set member with before | now
  · exact .inl before
  · exact .inr now.symm

theorem Reporting.look (reporting : progress.Reporting count result)
    (free : progress.workers[worker]? = some .ready) : (progress.look worker).Reporting count result where
  accounted := reporting.accounted.look free
  first := reporting.first
  stopped done := by
    rcases done_of_mem_set done with before | now
    · exact reporting.stopped before
    · by_cases called : progress.cause.isSome = true
      · exact .inr called
      · rw [if_neg called] at now
        cases now

theorem Reporting.claim (reporting : progress.Reporting count result)
    (free : progress.workers[worker]? = some .taking) : (progress.claim count worker).Reporting count result where
  accounted := reporting.accounted.claim free
  first := reporting.first
  stopped done := by
    have small := reporting.accounted.small free (by simp)
    rw [taken_claim small]
    rcases done_of_mem_set done with before | now
    · rcases reporting.stopped before with used | called
      · exact .inl (Nat.le_succ_of_le used)
      · exact .inr called
    · by_cases below : progress.next < count
      · rw [if_pos below] at now
        cases now
      · exact .inl (Nat.le_succ_of_le (Nat.not_lt.mp (below ∘ (next_lt_iff small).mpr)))

theorem Reporting.call {index : Int64} (reporting : progress.Reporting count result)
    (holds : progress.workers[worker]? = some (.holding index)) :
    (progress.call worker index).Reporting count result where
  accounted := reporting.accounted.call holds
  first := reporting.first
  stopped done := by
    rcases done_of_mem_set done with before | now
    · exact reporting.stopped before
    · cases now

theorem Reporting.finish {index : Int64} (reporting : progress.Reporting count result)
    (busy : progress.workers[worker]? = some (.busy index)) :
    (progress.finish (endingWith result) worker index).Reporting count result where
  accounted := reporting.accounted.finish busy
  first := by simp [Progress.finish, endingWith, reporting.first]
  stopped done := by
    rcases done_of_mem_set done with before | now
    · rcases reporting.stopped before with used | called
      · exact .inl used
      · exact .inr (by simp [Progress.finish, called])
    · by_cases failed : (endingWith result index).failure.isSome = true
      · exact .inr (by simp [Progress.finish, failed])
      · rw [if_neg failed] at now
        cases now

theorem Reporting.step (reporting : progress.Reporting count result) (worker : Nat) :
    (progress.step count (endingWith result) worker).Reporting count result := by
  unfold Progress.step
  split
  · next free => exact reporting.look free
  · next free => exact reporting.claim free
  · next holds => exact reporting.call holds
  · next busy => exact reporting.finish busy
  · exact reporting

theorem Reporting.run (reporting : progress.Reporting count result) (schedule : List Nat) :
    (progress.run count (endingWith result) schedule).Reporting count result := by
  induction schedule generalizing progress with
  | nil => exact reporting
  | cons worker rest ih => exact ih (reporting.step worker)

/-- What the caller is told when all workers stopped. -/
structure Reports (count : Int64) (result : Int64 → Option Failure) (progress : Progress) : Prop where
  /-- Every number of a job that was taken had its job started. -/
  started : progress.started.toList.Perm (numbers count progress.taken)
  /-- Every job that was started has ended. -/
  returned : progress.finished.toList.Perm progress.started.toList
  /-- There is nothing to report exactly if every job was started and none failed. -/
  success : progress.cause = none ↔
    ∀ index, 0 ≤ index → index < count → index ∈ progress.started.toList ∧ result index = none
  /-- Otherwise it is the failure of the job that ended first among those that failed. -/
  failure : ∀ failure, progress.cause = some failure ↔ ∃ earlier index later,
    progress.finished.toList = earlier ++ index :: later ∧ result index = some failure ∧
      ∀ other ∈ earlier, result other = none

theorem Reporting.reports (reporting : progress.Reporting count result)
    (manned : progress.workers ≠ [] ∨ count.toNatClampNeg = 0) (ended : progress.isOver = true) :
    progress.Reports count result := by
  obtain ⟨started, returned⟩ := reporting.accounted.ended ended
  refine ⟨started, returned, ⟨?_, ?_⟩, ?_⟩
  · -- Nobody called the work off, so the workers stopped because the numbers were used up.
    intro calm index positive below
    have used : count.toNatClampNeg ≤ progress.taken := by
      rcases manned with some | none
      · have stopped : .done ∈ progress.workers := by
          rw [eq_replicate_of_isOver ended]
          exact List.mem_replicate.mpr ⟨by simpa using some, rfl⟩
        exact (reporting.stopped stopped).resolve_right (by simp [calm])
      · exact none ▸ Nat.zero_le _
    have wasStarted := started.symm.subset (mem_numbers_of_le used positive below)
    have first := reporting.first
    rw [calm, eq_comm, List.findSome?_eq_none_iff] at first
    exact ⟨wasStarted, first index (returned.symm.subset wasStarted)⟩
  · intro all
    rw [reporting.first, List.findSome?_eq_none_iff]
    intro index finished
    obtain ⟨positive, below⟩ := reporting.accounted.inside (returned.subset finished)
    exact (all index positive below).2
  · intro failure
    rw [reporting.first, List.findSome?_eq_some_iff]

/-- What holds at any time of a run. -/
structure Underway (count : Int64) (result : Int64 → Option Failure) (progress : Progress) : Prop where
  /-- No job is started twice. -/
  once : progress.started.toList.Nodup
  /-- Nothing is started that is not asked for. -/
  inside : ∀ index ∈ progress.started.toList, 0 ≤ index ∧ index < count
  /-- The job of a number that was taken was started, or a worker is about to start it. -/
  kept : ∀ index ∈ numbers count progress.taken,
    index ∈ progress.started.toList ∨ .holding index ∈ progress.workers
  /-- A worker stops early only after a job has failed. -/
  early : .done ∈ progress.workers → progress.taken < count.toNatClampNeg →
    ∃ index ∈ progress.finished.toList, result index ≠ none
  /-- The counter passes the number of jobs at most once for each worker. -/
  passed : progress.taken ≤ count.toNatClampNeg + progress.workers.length

theorem Reporting.underway (reporting : progress.Reporting count result) : progress.Underway count result where
  once := reporting.accounted.nodup
  inside _ := reporting.accounted.inside
  kept index given := by
    rcases List.mem_append.mp (reporting.accounted.given.symm.subset given) with held | started
    · obtain ⟨state, member, taken⟩ := List.mem_filterMap.mp held
      cases state with
      | holding other =>
        obtain rfl : other = index := Option.some.inj taken
        exact .inr member
      | ready => cases taken
      | taking => cases taken
      | busy _ => cases taken
      | done => cases taken
    · exact .inl started
  early done below := by
    have called := (reporting.stopped done).resolve_left (Nat.not_le.mpr below)
    rw [reporting.first, List.findSome?_isSome_iff] at called
    obtain ⟨index, finished, failed⟩ := called
    exact ⟨index, finished, Option.isSome_iff_ne_none.mp failed⟩
  passed := reporting.accounted.taken_le

end Progress

namespace Pool

theorem Countable.reporting {pool : Pool} {count : Int64} (countable : pool.Countable count)
    (result : Int64 → Option Failure) (schedule : List Nat) :
    (pool.progress count none (endingWith result) schedule).Reporting count result ∧
      ((pool.progress count none (endingWith result) schedule).workers ≠ [] ∨ count.toNatClampNeg = 0) := by
  obtain ⟨workers, few, some, same⟩ := pool.progress_eq_run count none (endingWith result) schedule
  rw [same]
  exact ⟨(Progress.reporting_start (countable.room few) result).run schedule, manned_run some none _ schedule⟩

/-- As long as the counter can count the jobs and the workers that share them: whatever these do when, each job is
    started at most once, a number that was taken always has its job started, and workers stop early only after a job
    has failed. When all of them stopped, which they do as long as none is forgotten, nothing is reported exactly if
    every job was started and none failed, and otherwise the failure of the job that ended first among those that
    failed. -/
theorem reports_of_schedule (pool : Pool) (count : Int64) (countable : pool.Countable count)
    (result : Int64 → Option Failure) :
    (∀ schedule : List Nat,
      (pool.progress count none (endingWith result) schedule).Underway count result ∧
        ((pool.progress count none (endingWith result) schedule).isOver = true →
          (pool.progress count none (endingWith result) schedule).Reports count result)) ∧
    ∀ schedule : Nat → Nat, Progress.Fair (pool.share count) schedule →
      ∃ time, (pool.progress count none (endingWith result) (Progress.movesUntil schedule time)).isOver = true := by
  constructor
  · intro schedule
    obtain ⟨reporting, manned⟩ := countable.reporting result schedule
    exact ⟨reporting.underway, reporting.reports manned⟩
  · intro schedule fair
    exact countable.isOver_of_fair none _ fair

/-- The second and the third of four jobs fail. -/
def twoFailures (index : Int64) : Option Failure :=
  if index = 1 || index = 2 then some (.plain s!"job {index.toInt}") else none

/-- Of two workers the first is still in the second job when the other one ends the third. The fourth is skipped. -/
theorem reports_of_schedule_overtaken :
    twoWorkers.Countable 4 ∧
      (twoWorkers.progress 4 none (endingWith twoFailures) [0, 0, 0, 0, 0, 0, 0, 1, 1, 1, 1, 0]).Reports 4
        twoFailures ∧
      (twoWorkers.progress 4 none (endingWith twoFailures) [0, 0, 0, 0, 0, 0, 0, 1, 1, 1, 1, 0]).cause =
        some (.plain "job 2") ∧
    Progress.Fair (twoWorkers.share 4) (· % 2) ∧
      ∃ time, (twoWorkers.progress 4 none (endingWith twoFailures)
        (Progress.movesUntil (· % 2) time)).isOver = true := by
  have countable : twoWorkers.Countable 4 := by decide
  obtain ⟨reports, ends⟩ := reports_of_schedule twoWorkers 4 countable twoFailures
  have ended : (twoWorkers.progress 4 none (endingWith twoFailures)
      [0, 0, 0, 0, 0, 0, 0, 1, 1, 1, 1, 0]).isOver = true := rfl
  have reported := (reports _).2 ended
  have fair : Progress.Fair (twoWorkers.share 4) (· % 2) := by
    intro worker below time
    have two : twoWorkers.share 4 = 2 := rfl
    refine ⟨2 * time + worker, by omega, ?_⟩
    show (2 * time + worker) % 2 = worker
    omega
  refine ⟨countable, reported, (reported.failure _).mpr ⟨[0], 2, [1], ?_, ?_, ?_⟩, fair, ends _ fair⟩
  · rfl
  · rfl
  · exact List.forall_mem_singleton.mpr rfl

/-- Only jobs with a negative number fail. -/
def negativeFailure (index : Int64) : Option Failure :=
  if index < 0 then some (.plain s!"job {index.toInt}") else none

/-- Two workers share 2^63 - 1 jobs, all of which end well. When the first one has done all of them and has stopped, the
    second one starts a job with a negative number, and what is reported is the failure of this job. A pool of 2^62
    workers cannot be made. -/
theorem failure_without_job :
    ((∀ processors, make 2 processors = .ok twoWorkers) ∧ ∃ schedule,
      (twoWorkers.progress Int64.maxValue none (endingWith negativeFailure) schedule).isOver = true ∧
      (∀ index, 0 ≤ index → index < Int64.maxValue →
        index ∈ (twoWorkers.progress Int64.maxValue none (endingWith negativeFailure) schedule).started.toList ∧
          negativeFailure index = none) ∧
      (twoWorkers.progress Int64.maxValue none (endingWith negativeFailure) schedule).cause =
        some (.plain "job -9223372036854775808")) ∧
    ∀ processors, make 4611686018427387904 processors = .error .sizeOutOfRange := by
  refine ⟨⟨make_of_positive (by decide), ?_⟩, make_of_positive (by decide)⟩
  have well (index : Int64) (positive : 0 ≤ index) : negativeFailure index = none :=
    if_neg (Int64.not_lt.mpr positive)
  have calm (index : Int64) (positive : 0 ≤ index) (_ : index < Int64.maxValue) :
      endingWith negativeFailure index = {} := by
    rw [endingWith, well index positive]
  have fails : negativeFailure Int64.minValue = some (.plain "job -9223372036854775808") := by decide +kernel
  have some : 0 < Int64.maxValue := by decide
  have two : twoWorkers.share Int64.maxValue = 0 + 1 + 1 := by decide
  obtain ⟨schedule, ended, cause, all⟩ :=
    @Progress.run_oneByOne_fails Int64.maxValue (endingWith negativeFailure) calm 0 some (by decide) _
      (congrArg (JobOutcome.mk none) fails)
  rw [← two, ← twoWorkers.progress_of_pos some] at ended cause
  refine ⟨schedule, ended, fun index positive below => ⟨?_, well index positive⟩, cause⟩
  rw [twoWorkers.progress_of_pos some, two]
  exact all index positive below

end Pool

end KernelForge
