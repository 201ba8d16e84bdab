import KernelForge.Proofs.Pool.InTurn
import Mathlib.Order.Nat

/-!
Numbered jobs shared out among workers that move in any order. Whatever the schedule, a number below the counter is in
the hand of one worker or its job was started, and a job that was started is under way at one worker or has ended. So
when all workers stopped, every job was started once and has ended, and nothing else was started. A worker can always
move until it stops, and every move brings the end nearer, so a schedule that forgets no worker gets there.

The counter passes the number of jobs once for each worker and no further. So all of this needs a counter that can count
the jobs and the workers together, and fails without it.
-/

namespace KernelForge

/-- The number that a worker took without having started its job. -/
def Worker.held? : Worker → Option Int64
  | .holding index => some index
  | _ => none

/-- The number of the job that a worker is in. -/
def Worker.entered? : Worker → Option Int64
  | .busy index => some index
  | _ => none

/-- What a worker still has to do before it can stop, apart from numbers that nobody took yet. -/
def Worker.burden : Worker → Nat
  | .ready => 2
  | .taking => 1
  | .holding _ => 4
  | .busy _ => 3
  | .done => 0

/-- The entry of a list with a number, between what stands in front of it and behind it. -/
theorem exists_of_getElem? {α : Type} {items : List α} {index : Nat} {item : α} (present : items[index]? = some item)
    (other : α) : ∃ front back, items = front ++ item :: back ∧ items.set index other = front ++ other :: back := by
  induction items generalizing index with
  | nil => simp at present
  | cons first rest ih =>
    cases index with
    | zero =>
      obtain rfl := Option.some.inj present
      exact ⟨[], rest, rfl, rfl⟩
    | succ index =>
      obtain ⟨front, back, same, changed⟩ := ih present
      exact ⟨first :: front, back, by rw [same, List.cons_append],
        by rw [List.set_cons_succ, changed, List.cons_append]⟩

/-- An item from the middle of a list, moved behind everything. -/
theorem perm_move {α : Type} (front back rest : List α) (item : α) :
    (front ++ item :: back ++ rest).Perm (front ++ back ++ (rest ++ [item])) := by
  have middle : (front ++ item :: back ++ rest).Perm (item :: (front ++ back ++ rest)) :=
    List.perm_middle.append_right rest
  have last := (List.perm_append_singleton item (front ++ back ++ rest)).symm
  rw [List.append_assoc (front ++ back)] at last
  exact middle.trans last

namespace Progress

/-! ### Where the numbers are -/

/-- What holds between any two moves, whatever jobs lead to. -/
structure Accounted (count : Int64) (progress : Progress) : Prop where
  /-- The counter can count the jobs, and every worker once more. -/
  room : count.toNatClampNeg + progress.workers.length ≤ 2 ^ 63
  /-- A number that was given out is in the hand of a worker, or its job was started. -/
  given : (progress.workers.filterMap Worker.held? ++ progress.started.toList).Perm (numbers count progress.taken)
  /-- A job that was started is under way, or it has ended. -/
  entered : (progress.workers.filterMap Worker.entered? ++ progress.finished.toList).Perm progress.started.toList
  /-- The counter passed the number of jobs at most once for each worker that stopped. -/
  passed : progress.taken - count.toNatClampNeg ≤ progress.workers.count .done

theorem accounted_start {count : Int64} {workers : Nat} (room : count.toNatClampNeg + workers ≤ 2 ^ 63)
    (cause : Option Failure) : Accounted count (start workers cause) where
  room := by simpa [start] using room
  given := by
    rw [taken_start, numbers_zero]
    simp [start, List.filterMap_replicate, Worker.held?]
  entered := by simp [start, List.filterMap_replicate, Worker.entered?]
  passed := by simp

variable {count : Int64} {progress : Progress} {worker : Nat} {job : Int64 → JobOutcome}

/-- While a worker has not stopped, the counter can still count it. -/
theorem Accounted.small (accounted : progress.Accounted count) {state : Worker}
    (present : progress.workers[worker]? = some state) (active : state ≠ .done) : progress.taken < 2 ^ 63 := by
  obtain ⟨front, back, same, -⟩ := exists_of_getElem? present .done
  have room := accounted.room
  have passed := accounted.passed
  have before : front.count .done ≤ front.length := List.count_le_length
  have after : back.count .done ≤ back.length := List.count_le_length
  rw [same, List.length_append, List.length_cons] at room
  rw [same, List.count_append, List.count_cons_of_ne active] at passed
  omega

theorem Accounted.look (accounted : progress.Accounted count) (free : progress.workers[worker]? = some .ready) :
    (progress.look worker).Accounted count := by
  obtain ⟨room, given, entered, passed⟩ := accounted
  obtain ⟨front, back, same, changed⟩ := exists_of_getElem? free (if progress.cause.isSome then .done else .taking)
  rw [same] at room given entered passed
  refine ⟨?_, ?_, ?_, ?_⟩ <;> rw [workers_look, changed]
  · simpa using room
  · split <;> simpa [List.filterMap_cons, Worker.held?] using given
  · split <;> simpa [List.filterMap_cons, Worker.entered?] using entered
  · simp only [List.count_append, List.count_cons] at passed ⊢
    exact Nat.le_trans passed (by simp)

theorem Accounted.claim (accounted : progress.Accounted count) (free : progress.workers[worker]? = some .taking) :
    (progress.claim count worker).Accounted count := by
  have small := accounted.small free (by simp)
  have one : (progress.claim count worker).taken = progress.taken + 1 := taken_claim small
  have within := @next_lt_iff count progress small
  have number := progress.ofNat_taken
  obtain ⟨room, given, entered, passed⟩ := accounted
  obtain ⟨front, back, same, changed⟩ :=
    exists_of_getElem? free (if progress.next < count then .holding progress.next else .done)
  rw [same] at room given entered passed
  refine ⟨?_, ?_, ?_, ?_⟩ <;> simp only [workers_claim, changed, started_claim, finished_claim, one]
  · simpa using room
  · by_cases below : progress.next < count
    · rw [if_pos below, numbers_succ (within.mp below), number]
      have held : (front.filterMap Worker.held? ++ back.filterMap Worker.held? ++ progress.started.toList).Perm
          (numbers count progress.taken) := by
        simpa [List.filterMap_cons, Worker.held?] using given
      have taken := (held.cons progress.next).trans (List.perm_append_singleton progress.next _).symm
      simpa [List.filterMap_cons, Worker.held?] using List.perm_middle.trans (by simpa using taken)
    · have beyond := Nat.not_lt.mp (below ∘ within.mpr)
      rw [if_neg below, numbers_of_le (Nat.le_succ_of_le beyond), ← numbers_of_le beyond]
      simpa [List.filterMap_cons, Worker.held?] using given
  · split <;> simpa [List.filterMap_cons, Worker.entered?] using entered
  · by_cases below : progress.next < count
    · have none : progress.taken + 1 - count.toNatClampNeg = 0 := Nat.sub_eq_zero_of_le (within.mp below)
      rw [none]
      exact Nat.zero_le _
    · rw [if_neg below]
      simp at passed ⊢
      omega

theorem Accounted.call {index : Int64} (accounted : progress.Accounted count)
    (holds : progress.workers[worker]? = some (.holding index)) : (progress.call worker index).Accounted count := by
  obtain ⟨room, given, entered, passed⟩ := accounted
  obtain ⟨front, back, same, changed⟩ := exists_of_getElem? holds (.busy index)
  rw [same] at room given entered passed
  refine ⟨?_, ?_, ?_, ?_⟩ <;> rw [workers_call, changed]
  · simpa using room
  · have moved := perm_move (front.filterMap Worker.held?) (back.filterMap Worker.held?) progress.started.toList index
    simpa [List.filterMap_cons, Worker.held?] using
      moved.symm.trans (by simpa [List.filterMap_cons, Worker.held?] using given)
  · have others : (front.filterMap Worker.entered? ++ back.filterMap Worker.entered? ++
        progress.finished.toList).Perm progress.started.toList := by
      simpa [List.filterMap_cons, Worker.entered?] using entered
    have begun := (others.cons index).trans (List.perm_append_singleton index progress.started.toList).symm
    simpa [List.filterMap_cons, Worker.entered?] using List.perm_middle.trans (by simpa using begun)
  · simpa using passed

theorem Accounted.finish {index : Int64} (accounted : progress.Accounted count)
    (busy : progress.workers[worker]? = some (.busy index)) : (progress.finish job worker index).Accounted count := by
  obtain ⟨room, given, entered, passed⟩ := accounted
  obtain ⟨front, back, same, changed⟩ :=
    exists_of_getElem? busy (if (job index).failure.isSome then .done else .ready)
  rw [same] at room given entered passed
  refine ⟨?_, ?_, ?_, ?_⟩ <;> rw [workers_finish, changed]
  · simpa using room
  · split <;> simpa [List.filterMap_cons, Worker.held?] using given
  · have moved := perm_move (front.filterMap Worker.entered?) (back.filterMap Worker.entered?)
      progress.finished.toList index
    have ended := moved.symm.trans (by simpa [List.filterMap_cons, Worker.entered?] using entered)
    split <;> simpa [List.filterMap_cons, Worker.entered?] using ended
  · simp only [List.count_append, List.count_cons] at passed ⊢
    exact Nat.le_trans passed (by simp)

theorem Accounted.step (accounted : progress.Accounted count) (job : Int64 → JobOutcome) (worker : Nat) :
    (progress.step count job worker).Accounted count := by
  unfold Progress.step
  split
  · next free => exact accounted.look free
  · next free => exact accounted.claim free
  · next holds => exact accounted.call holds
  · next busy => exact accounted.finish busy
  · exact accounted

theorem Accounted.run (accounted : progress.Accounted count) (job : Int64 → JobOutcome) (schedule : List Nat) :
    (progress.run count job schedule).Accounted count := by
  induction schedule generalizing progress with
  | nil => exact accounted
  | cons worker rest ih => exact ih (accounted.step job worker)

theorem Accounted.nodup (accounted : progress.Accounted count) : progress.started.toList.Nodup :=
  (List.nodup_append.mp (accounted.given.nodup_iff.mpr (nodup_numbers _ _))).2.1

theorem Accounted.inside (accounted : progress.Accounted count) {index : Int64}
    (started : index ∈ progress.started.toList) : 0 ≤ index ∧ index < count :=
  (mem_numbers.mp (accounted.given.subset (List.mem_append_right _ started))).1

/-- The counter passes the number of jobs by the number of workers at most. -/
theorem Accounted.taken_le (accounted : progress.Accounted count) :
    progress.taken ≤ count.toNatClampNeg + progress.workers.length := by
  have stopped : progress.workers.count .done ≤ progress.workers.length := List.count_le_length
  have passed := accounted.passed
  omega

theorem eq_replicate_of_isOver (ended : progress.isOver = true) :
    progress.workers = List.replicate progress.workers.length .done :=
  List.eq_replicate_iff.mpr ⟨rfl, by simpa [isOver] using ended⟩

/-- When all workers stopped, every number that was given out had its job started, and what was started has ended. -/
theorem Accounted.ended (accounted : progress.Accounted count) (ended : progress.isOver = true) :
    progress.started.toList.Perm (numbers count progress.taken) ∧
      progress.finished.toList.Perm progress.started.toList := by
  obtain ⟨-, given, entered, -⟩ := accounted
  rw [eq_replicate_of_isOver ended] at given entered
  exact ⟨by simpa [List.filterMap_replicate, Worker.held?] using given,
    by simpa [List.filterMap_replicate, Worker.entered?] using entered⟩

/-! ### Jobs that do not fail -/

/-- What holds between any two moves on jobs that neither fail nor call the work off. -/
structure Shared (count : Int64) (progress : Progress) : Prop where
  accounted : progress.Accounted count
  /-- The work was not called off. -/
  calm : progress.cause = none
  /-- The counter passed the number of jobs once for each worker that stopped. -/
  stopped : progress.workers.count .done ≤ progress.taken - count.toNatClampNeg

theorem shared_start {count : Int64} {workers : Nat} (room : count.toNatClampNeg + workers ≤ 2 ^ 63) :
    Shared count (start workers none) where
  accounted := accounted_start room none
  calm := rfl
  stopped := by simp [start, List.count_replicate]

theorem Shared.look (shared : progress.Shared count) (free : progress.workers[worker]? = some .ready) :
    (progress.look worker).Shared count := by
  refine ⟨shared.accounted.look free, shared.calm, ?_⟩
  obtain ⟨front, back, same, changed⟩ := exists_of_getElem? free .taking
  have stopped := shared.stopped
  rw [same] at stopped
  rw [workers_look, shared.calm, Option.isSome_none, if_neg Bool.false_ne_true, changed]
  simpa using stopped

theorem Shared.claim (shared : progress.Shared count) (free : progress.workers[worker]? = some .taking) :
    (progress.claim count worker).Shared count := by
  have small := shared.accounted.small free (by simp)
  refine ⟨shared.accounted.claim free, shared.calm, ?_⟩
  obtain ⟨front, back, same, changed⟩ :=
    exists_of_getElem? free (if progress.next < count then .holding progress.next else .done)
  have stopped := shared.stopped
  rw [same] at stopped
  rw [workers_claim, changed, taken_claim small]
  by_cases below : progress.next < count
  · simp [below] at stopped ⊢
    omega
  · have beyond := Nat.not_lt.mp (below ∘ (next_lt_iff small).mpr)
    simp [below] at stopped ⊢
    omega

theorem Shared.call {index : Int64} (shared : progress.Shared count)
    (holds : progress.workers[worker]? = some (.holding index)) : (progress.call worker index).Shared count := by
  refine ⟨shared.accounted.call holds, shared.calm, ?_⟩
  obtain ⟨front, back, same, changed⟩ := exists_of_getElem? holds (.busy index)
  have stopped := shared.stopped
  rw [same] at stopped
  rw [workers_call, changed]
  simpa using stopped

theorem Shared.finish {index : Int64} (shared : progress.Shared count)
    (busy : progress.workers[worker]? = some (.busy index)) :
    (progress.finish (fun _ => {}) worker index).Shared count := by
  refine ⟨shared.accounted.finish busy, by simp [Progress.finish, shared.calm], ?_⟩
  obtain ⟨front, back, same, changed⟩ := exists_of_getElem? busy .ready
  have stopped := shared.stopped
  rw [same] at stopped
  rw [workers_finish, Option.isSome_none, if_neg Bool.false_ne_true, changed]
  simpa using stopped

theorem Shared.step (shared : progress.Shared count) (worker : Nat) :
    (progress.step count (fun _ => {}) worker).Shared count := by
  unfold Progress.step
  split
  · next free => exact shared.look free
  · next free => exact shared.claim free
  · next holds => exact shared.call holds
  · next busy => exact shared.finish busy
  · exact shared

theorem Shared.run (shared : progress.Shared count) (schedule : List Nat) :
    (progress.run count (fun _ => {}) schedule).Shared count := by
  induction schedule generalizing progress with
  | nil => exact shared
  | cons worker rest ih => exact ih (shared.step worker)

/-- When all workers stopped, every job was started once and has ended. -/
theorem Shared.complete (shared : progress.Shared count) (manned : progress.workers ≠ [] ∨ count.toNatClampNeg = 0)
    (ended : progress.isOver = true) :
    progress.started.toList.Perm (numbers count count.toNatClampNeg) ∧
      progress.finished.toList.Perm progress.started.toList := by
  have reached : count.toNatClampNeg ≤ progress.taken := by
    have stopped := shared.stopped
    rw [eq_replicate_of_isOver ended, List.count_replicate_self] at stopped
    rcases manned with some | none
    · have positive := List.length_pos_iff.mpr some
      omega
    · omega
  have done := shared.accounted.ended ended
  rwa [numbers_of_le reached] at done

/-! ### The end of the work -/

/-- What is left to do, counted in moves. -/
def burden (count : Int64) (progress : Progress) : Nat :=
  4 * (count.toNatClampNeg - progress.taken) + (progress.workers.map Worker.burden).sum

theorem length_step (count : Int64) (job : Int64 → JobOutcome) (progress : Progress) (worker : Nat) :
    (progress.step count job worker).workers.length = progress.workers.length := by
  unfold step
  split
  · exact List.length_set
  · exact List.length_set
  · exact List.length_set
  · exact List.length_set
  · rfl

theorem length_run (count : Int64) (job : Int64 → JobOutcome) (progress : Progress) (schedule : List Nat) :
    (progress.run count job schedule).workers.length = progress.workers.length := by
  induction schedule generalizing progress with
  | nil => rfl
  | cons worker rest ih => exact (ih _).trans (length_step count job progress worker)

/-- The burdens of workers, of which one has changed. -/
theorem sum_burden_set {workers : List Worker} {state : Worker} (present : workers[worker]? = some state)
    (other : Worker) : ((workers.set worker other).map Worker.burden).sum + state.burden =
      (workers.map Worker.burden).sum + other.burden := by
  obtain ⟨front, back, same, changed⟩ := exists_of_getElem? present other
  rw [changed, same]
  simp only [List.map_append, List.map_cons, List.sum_append, List.sum_cons]
  omega

/-- Every move of a worker that did not stop brings the end nearer. -/
theorem Accounted.burden_step_lt (accounted : progress.Accounted count) {state : Worker}
    (present : progress.workers[worker]? = some state) (active : state ≠ .done) :
    (progress.step count job worker).burden count < progress.burden count := by
  have sum := sum_burden_set present
  cases state with
  | done => exact absurd rfl active
  | ready =>
    have lighter : Worker.burden (if progress.cause.isSome then .done else .taking) < Worker.burden .ready := by
      split <;> decide
    simp only [Progress.step, present, burden, taken_look, workers_look]
    have sum := sum (if progress.cause.isSome then .done else .taking)
    omega
  | taking =>
    have small := accounted.small present active
    have sum := sum (if progress.next < count then .holding progress.next else .done)
    simp only [Progress.step, present, burden, taken_claim small, workers_claim]
    by_cases below : progress.next < count
    · have fewer := (next_lt_iff small).mp below
      simp only [if_pos below, Worker.burden] at sum ⊢
      omega
    · simp only [if_neg below, Worker.burden] at sum ⊢
      omega
  | holding index =>
    have sum := sum (.busy index)
    simp only [Progress.step, present, burden, taken_call, workers_call]
    simp only [Worker.burden] at sum
    omega
  | busy index =>
    have lighter : Worker.burden (if (job index).failure.isSome then .done else .ready) <
        Worker.burden (.busy index) := by
      split <;> simp [Worker.burden]
    simp only [Progress.step, present, burden, taken_finish, workers_finish]
    have sum := sum (if (job index).failure.isSome then .done else .ready)
    omega

/-- A move does nothing, or it brings the end nearer. -/
theorem Accounted.step_eq_or_lt (accounted : progress.Accounted count) (job : Int64 → JobOutcome) (worker : Nat) :
    progress.step count job worker = progress ∨
      (progress.step count job worker).burden count < progress.burden count := by
  cases present : progress.workers[worker]? with
  | none => exact .inl (by simp [Progress.step, present])
  | some state =>
    by_cases stopped : state = .done
    · exact .inl (by simp [Progress.step, present, stopped])
    · exact .inr (accounted.burden_step_lt present stopped)

/-- Every worker is chosen again and again. -/
def Fair (workers : Nat) (schedule : Nat → Nat) : Prop :=
  ∀ worker < workers, ∀ time, ∃ later, time ≤ later ∧ schedule later = worker

/-- The moves of a schedule up to a time. -/
def movesUntil (schedule : Nat → Nat) (time : Nat) : List Nat :=
  (List.range time).map schedule

theorem run_movesUntil_succ (count : Int64) (job : Int64 → JobOutcome) (progress : Progress) (schedule : Nat → Nat)
    (time : Nat) : progress.run count job (movesUntil schedule (time + 1)) =
      (progress.run count job (movesUntil schedule time)).step count job (schedule time) := by
  simp [run, movesUntil, List.range_succ]

/-- As time goes by nothing happens, or the end comes nearer. -/
theorem Accounted.run_eq_or_lt (accounted : progress.Accounted count) (schedule : Nat → Nat) {time later : Nat}
    (ordered : time ≤ later) :
    progress.run count job (movesUntil schedule later) = progress.run count job (movesUntil schedule time) ∨
      (progress.run count job (movesUntil schedule later)).burden count <
        (progress.run count job (movesUntil schedule time)).burden count := by
  induction later, ordered using Nat.le_induction with
  | base => exact .inl rfl
  | succ later _ ih =>
    rw [run_movesUntil_succ]
    rcases (accounted.run job (movesUntil schedule later)).step_eq_or_lt job (schedule later) with same | nearer
    · rwa [same]
    · rcases ih with kept | lighter
      · exact .inr (kept ▸ nearer)
      · exact .inr (nearer.trans lighter)

/-- A schedule that forgets no worker comes to the end. -/
theorem Accounted.isOver_of_fair (accounted : progress.Accounted count) {schedule : Nat → Nat}
    (fair : Fair progress.workers.length schedule) :
    ∃ time, (progress.run count job (movesUntil schedule time)).isOver = true := by
  -- Downwards on what is left to do: as long as a worker is active, its next turn makes that less.
  suffices from_burden : ∀ bound time,
      (progress.run count job (movesUntil schedule time)).burden count < bound →
        ∃ later, (progress.run count job (movesUntil schedule later)).isOver = true from
    from_burden _ 0 (Nat.lt_succ_self _)
  intro bound
  induction bound with
  | zero => exact fun time none => absurd none (Nat.not_lt_zero _)
  | succ bound ih =>
    intro time below
    by_cases ended : (progress.run count job (movesUntil schedule time)).isOver = true
    · exact ⟨time, ended⟩
    have active : ∃ (worker : Nat) (state : Worker),
        (progress.run count job (movesUntil schedule time)).workers[worker]? = some state ∧ state ≠ .done := by
      simp only [isOver, List.all_eq_true, decide_eq_true_eq, not_forall] at ended
      obtain ⟨state, member, unstopped⟩ := ended
      obtain ⟨worker, present⟩ := List.mem_iff_getElem?.mp member
      exact ⟨worker, state, present, unstopped⟩
    obtain ⟨worker, state, present, unstopped⟩ := active
    have known : worker < progress.workers.length := by
      rw [← length_run count job progress (movesUntil schedule time)]
      exact (List.getElem?_eq_some_iff.mp present).1
    obtain ⟨later, ordered, chosen⟩ := fair worker known time
    rcases @Accounted.run_eq_or_lt count progress job accounted schedule time later ordered with same | lighter
    · have nearer := @Accounted.burden_step_lt count _ worker job
        (accounted.run job (movesUntil schedule time)) state present unstopped
      refine ih (later + 1) ?_
      rw [run_movesUntil_succ, chosen, same]
      omega
    · exact ih later (by omega)

/-! ### Calls and their arguments -/

/-- The calls of shared work, by their arguments. -/
structure CallsOnce {α : Type} (asked : α → Prop) (argument : Int64 → α) (progress : Progress) : Prop where
  /-- Nothing is called that is not asked for. -/
  inside : ∀ index ∈ progress.started.toList, asked (argument index)
  /-- Nothing is called twice. -/
  once : (progress.started.toList.map argument).Nodup
  /-- When the caller goes on, everything was called, and every call has returned. -/
  complete : progress.isOver = true →
    (∀ value, asked value → value ∈ progress.started.toList.map argument) ∧
      progress.finished.toList.Perm progress.started.toList

theorem Shared.callsOnce (shared : progress.Shared count) (manned : progress.workers ≠ [] ∨ count.toNatClampNeg = 0)
    {α : Type} {asked : α → Prop} {argument : Int64 → α}
    (distinct : ∀ first, 0 ≤ first → ∀ second, 0 ≤ second → argument first = argument second → first = second)
    (numbered : ∀ value, asked value ↔ ∃ index, (0 ≤ index ∧ index < count) ∧ argument index = value) :
    progress.CallsOnce asked argument where
  inside index started := (numbered _).mpr ⟨index, shared.accounted.inside started, rfl⟩
  once := by
    refine List.Nodup.map_on ?_ shared.accounted.nodup
    exact fun first firstStarted second secondStarted =>
      distinct first (shared.accounted.inside firstStarted).1 second (shared.accounted.inside secondStarted).1
  complete ended := by
    obtain ⟨all, back⟩ := shared.complete manned ended
    refine ⟨fun value wanted => ?_, back⟩
    obtain ⟨index, inside, rfl⟩ := (numbered value).mp wanted
    exact List.mem_map_of_mem (all.symm.subset (mem_numbers_of_le (Nat.le_refl _) inside.1 inside.2))

end Progress

namespace Pool

/-- A pool is made with the workers that are asked for, unless there are 2^62 of them or more. -/
theorem make_of_positive {workers : Int64} (positive : 0 < workers) (processors : Int64) :
    make workers processors =
      if workers.toInt < 2 ^ 62 then .ok { workers := workers.toNatClampNeg } else .error .sizeOutOfRange := by
  have below := Int64.toInt_lt workers
  have doubled : (workers * 2).toInt = (workers.toInt * 2).bmod (2 ^ 64) := Int64.toInt_mul workers 2
  have wraps : workers * 2 < 0 ↔ ¬workers.toInt < 2 ^ 62 := by
    rw [Int64.lt_iff_toInt_lt, Int64.toInt_zero] at positive ⊢
    rw [doubled, Int.bmod_def]
    omega
  rw [make, if_neg (Int64.not_le.mpr positive)]
  by_cases few : workers.toInt < 2 ^ 62
  · rw [if_pos few, if_neg (by rw [wraps]; exact not_not.mpr few)]
  · rw [if_neg few, if_pos (wraps.mpr few)]

/-- Whether the counter can count jobs, and each worker that shares them once more. -/
def Countable (pool : Pool) (count : Int64) : Prop :=
  count.toNatClampNeg + pool.share count ≤ 2 ^ 63

instance (pool : Pool) (count : Int64) : Decidable (pool.Countable count) :=
  inferInstanceAs (Decidable (_ ≤ _))

theorem share_pos (pool : Pool) (count : Int64) : 0 < pool.share count := by
  unfold share
  split
  · exact Nat.one_pos
  · exact Nat.lt_of_lt_of_le Nat.one_pos (Nat.le_max_left _ _)

theorem progress_of_pos (pool : Pool) {count : Int64} (some : 0 < count) (cause : Option Failure)
    (job : Int64 → JobOutcome) (schedule : List Nat) :
    pool.progress count cause job schedule = (Progress.start (pool.share count) cause).run count job schedule :=
  if_neg (Int64.not_le.mpr some)

/-- Without any job there is nobody to move, and the work is as it was at the start. -/
theorem progress_eq_run (pool : Pool) (count : Int64) (cause : Option Failure) (job : Int64 → JobOutcome)
    (schedule : List Nat) : ∃ workers ≤ pool.share count, (0 < workers ∨ count.toNatClampNeg = 0) ∧
      pool.progress count cause job schedule = (Progress.start workers cause).run count job schedule := by
  unfold progress
  split
  · next none =>
    have zero : count.toNatClampNeg = 0 := by
      rw [Int64.le_iff_toInt_le, Int64.toInt_zero] at none
      rw [← Int64.toNat_toInt]
      omega
    refine ⟨0, Nat.zero_le _, .inr zero, ?_⟩
    have idle : ∀ worker, (Progress.start 0 cause).step count job worker = Progress.start 0 cause := fun _ => rfl
    induction schedule with
    | nil => rfl
    | cons worker rest ih => rwa [Progress.run, List.foldl_cons, idle]
  · exact ⟨_, Nat.le_refl _, .inl (pool.share_pos _), rfl⟩

theorem manned_run {workers : Nat} {count : Int64} (some : 0 < workers ∨ count.toNatClampNeg = 0)
    (cause : Option Failure) (job : Int64 → JobOutcome) (schedule : List Nat) :
    ((Progress.start workers cause).run count job schedule).workers ≠ [] ∨ count.toNatClampNeg = 0 := by
  refine some.imp_left fun positive => ?_
  rwa [← List.length_pos_iff, Progress.length_run, Progress.start, List.length_replicate]

section Countable

variable {pool : Pool} {count : Int64} (countable : pool.Countable count)

include countable

theorem Countable.room {workers : Nat} (few : workers ≤ pool.share count) :
    count.toNatClampNeg + workers ≤ 2 ^ 63 :=
  Nat.le_trans (Nat.add_le_add_left few _) countable

theorem Countable.shared (schedule : List Nat) :
    (pool.progress count none (fun _ => {}) schedule).Shared count ∧
      ((pool.progress count none (fun _ => {}) schedule).workers ≠ [] ∨ count.toNatClampNeg = 0) := by
  obtain ⟨workers, few, some, same⟩ := pool.progress_eq_run count none (fun _ => {}) schedule
  rw [same]
  exact ⟨(Progress.shared_start (countable.room few)).run schedule, manned_run some none _ schedule⟩

theorem Countable.isOver_of_fair (cause : Option Failure) (job : Int64 → JobOutcome) {schedule : Nat → Nat}
    (fair : Progress.Fair (pool.share count) schedule) :
    ∃ time, (pool.progress count cause job (Progress.movesUntil schedule time)).isOver = true := by
  unfold progress
  split
  · exact ⟨0, rfl⟩
  · exact (Progress.accounted_start countable cause).isOver_of_fair (by simpa [Progress.start] using fair)

end Countable

/-- If the counter cannot count them, there is a schedule on which a job with a negative number is started. -/
theorem exists_negative {pool : Pool} {count : Int64} (some : 0 < count) (crowded : ¬pool.Countable count) :
    ∃ schedule, Int64.minValue ∈ (pool.progress count none (fun _ => {}) schedule).started.toList := by
  have few := count.toNatClampNeg_lt
  have many := Nat.lt_of_not_le crowded
  obtain ⟨stopped, full⟩ : ∃ stopped, count.toNatClampNeg + (stopped + 1) = 2 ^ 63 :=
    ⟨2 ^ 63 - 1 - count.toNatClampNeg, by omega⟩
  obtain ⟨free, shared⟩ : ∃ free, pool.share count = stopped + (free + 1) + 1 :=
    ⟨pool.share count - (stopped + 2), by omega⟩
  refine ⟨oneByOne (stopped + 1) count.toNatClampNeg ++ [stopped + 1, stopped + 1, stopped + 1], ?_⟩
  rw [pool.progress_of_pos some, shared, Progress.run_oneByOne_negative (fun _ _ _ => rfl) free some full]
  simp

/-! ### Cells of a grid -/

/-- Numbers of jobs are divided without a sign. -/
theorem toInt_cell (width : Int64) {index : Int64} (positive : 0 ≤ index) :
    (cell width index).1.toInt = index.toInt % width.toInt ∧
      (cell width index).2.toInt = index.toInt / width.toInt := by
  have known : index ≠ Int64.minValue := by
    rintro rfl
    exact absurd positive (by decide)
  rw [Int64.le_iff_toInt_le, Int64.toInt_zero] at positive
  rw [cell, Int64.toInt_mod, Int64.toInt_div_of_ne_left _ _ known, Int.tmod_eq_emod_of_nonneg positive,
    Int.tdiv_eq_ediv_of_nonneg positive]
  exact ⟨rfl, rfl⟩

theorem cell_injective {width first second : Int64} (positive : 0 ≤ first) (other : 0 ≤ second)
    (same : cell width first = cell width second) : first = second := by
  obtain ⟨column, row⟩ := toInt_cell width positive
  obtain ⟨otherColumn, otherRow⟩ := toInt_cell width other
  rw [same] at column row
  rw [← Int64.toInt_inj, ← Int.emod_add_mul_ediv first.toInt width.toInt, ← column, ← row, otherColumn, otherRow,
    Int.emod_add_mul_ediv]

/-- The number of cells is their product, as long as that can be counted in 64 bits. -/
theorem toInt_cells {x y : Int64} (fits : x.toInt * y.toInt < 2 ^ 63) (wide : 0 < x) (high : 0 < y) :
    (cells x y).toInt = x.toInt * y.toInt := by
  have some : ¬(decide (x ≤ 0) || decide (y ≤ 0)) = true := by
    simp [Int64.not_le.mpr wide, Int64.not_le.mpr high]
  rw [Int64.lt_iff_toInt_lt, Int64.toInt_zero] at wide high
  have positive := Int.mul_pos wide high
  rw [cells, if_neg some, Int64.toInt_mul]
  exact Int.bmod_eq_of_le (by omega) (by omega)

/-- The numbers of the cells of a grid are those below their product. -/
theorem exists_cell_iff {x y : Int64} (fits : x.toInt * y.toInt < 2 ^ 63) (value : Int64 × Int64) :
    ((0 ≤ value.1 ∧ value.1 < x) ∧ 0 ≤ value.2 ∧ value.2 < y) ↔
      ∃ index, (0 ≤ index ∧ index < cells x y) ∧ cell x index = value := by
  constructor
  · obtain ⟨column, row⟩ := value
    rintro ⟨⟨right, inRow⟩, down, inColumn⟩
    have total := toInt_cells fits (Int64.lt_of_le_of_lt right inRow) (Int64.lt_of_le_of_lt down inColumn)
    simp only [Int64.le_iff_toInt_le, Int64.lt_iff_toInt_lt, Int64.toInt_zero] at right inRow down inColumn ⊢
    have wide : 0 < x.toInt := by omega
    have inside : column.toInt + x.toInt * row.toInt < x.toInt * y.toInt :=
      calc column.toInt + x.toInt * row.toInt < x.toInt + x.toInt * row.toInt := Int.add_lt_add_right inRow _
        _ = x.toInt * (row.toInt + 1) := by rw [Int.mul_add, Int.mul_one, Int.add_comm]
        _ ≤ x.toInt * y.toInt := Int.mul_le_mul_of_nonneg_left inColumn (Int.le_of_lt wide)
    have positive : 0 ≤ column.toInt + x.toInt * row.toInt :=
      Int.add_nonneg right (Int.mul_nonneg (Int.le_of_lt wide) down)
    have number : (Int64.ofInt (column.toInt + x.toInt * row.toInt)).toInt = column.toInt + x.toInt * row.toInt :=
      Int64.toInt_ofInt_of_le (by omega) (by omega)
    refine ⟨Int64.ofInt (column.toInt + x.toInt * row.toInt), by rw [number, total]; exact ⟨positive, inside⟩, ?_⟩
    obtain ⟨first, second⟩ := @toInt_cell x (Int64.ofInt (column.toInt + x.toInt * row.toInt))
      (by rwa [Int64.le_iff_toInt_le, number])
    rw [number] at first second
    refine Prod.ext (Int64.toInt_inj.mp ?_) (Int64.toInt_inj.mp ?_)
    · rw [first, Int.add_mul_emod_self_left, Int.emod_eq_of_lt right inRow]
    · rw [second, Int.add_mul_ediv_left _ _ (Int.ne_of_gt wide), Int.ediv_eq_zero_of_lt right inRow, Int.zero_add]
  · rintro ⟨index, ⟨positive, below⟩, rfl⟩
    have some : ¬(decide (x ≤ 0) || decide (y ≤ 0)) = true := by
      intro none
      rw [cells, if_pos none] at below
      exact Int64.not_lt.mpr positive below
    simp only [Bool.or_eq_true, decide_eq_true_eq, not_or, Int64.not_le] at some
    obtain ⟨wide, high⟩ := some
    have total := toInt_cells fits wide high
    obtain ⟨column, row⟩ := toInt_cell x positive
    simp only [Int64.le_iff_toInt_le, Int64.lt_iff_toInt_lt, Int64.toInt_zero, column, row] at positive below wide ⊢
    rw [total] at below
    exact ⟨⟨Int.emod_nonneg _ (Int.ne_of_gt wide), Int.emod_lt_of_pos _ wide⟩,
      Int.ediv_nonneg positive (Int.le_of_lt wide), Int.ediv_lt_of_lt_mul wide (by rwa [Int.mul_comm])⟩

/-- As long as the counter can count the jobs and the workers that share them: whatever these do when, numbered jobs and
    the cells of a grid are called once each and nothing else is called, and the caller goes on when all of these calls
    have returned. It does go on, as long as no worker is forgotten. A pool that was closed works with the caller
    alone. -/
theorem callsOnce_of_schedule (pool : Pool) :
    (∀ count : Int64, pool.Countable count → ∀ schedule : List Nat,
      (pool.progress count none (fun _ => {}) schedule).CallsOnce (fun index => 0 ≤ index ∧ index < count) id) ∧
    (∀ x y : Int64, x.toInt * y.toInt < 2 ^ 63 → pool.Countable (cells x y) → ∀ schedule : List Nat,
      (pool.progress (cells x y) none (fun _ => {}) schedule).CallsOnce
        (fun value => (0 ≤ value.1 ∧ value.1 < x) ∧ 0 ≤ value.2 ∧ value.2 < y) (cell x)) ∧
    ∀ count : Int64, pool.Countable count → ∀ schedule : Nat → Nat, Progress.Fair (pool.share count) schedule →
      ∃ time, (pool.progress count none (fun _ => {}) (Progress.movesUntil schedule time)).isOver = true := by
  refine ⟨fun count countable schedule => ?_, fun x y fits countable schedule => ?_,
    fun count countable schedule fair => countable.isOver_of_fair none _ fair⟩
  · obtain ⟨shared, manned⟩ := countable.shared schedule
    exact shared.callsOnce manned (fun _ _ _ _ same => same) fun index => by simp
  · obtain ⟨shared, manned⟩ := countable.shared schedule
    exact shared.callsOnce manned (fun _ positive _ other => cell_injective positive other) (exists_cell_iff fits)

/-- Three workers take turns at a grid of two columns and two rows. -/
theorem callsOnce_of_schedule_inTurn :
    ((2 : Int64).toInt * (2 : Int64).toInt < 2 ^ 63 ∧ (⟨3, false⟩ : Pool).Countable (cells 2 2) ∧
      ∀ value : Int64 × Int64, (0 ≤ value.1 ∧ value.1 < 2) ∧ 0 ≤ value.2 ∧ value.2 < 2 →
        value ∈ ((⟨3, false⟩ : Pool).progress (cells 2 2) none (fun _ => {})
          ((List.range 36).map (· % 3))).started.toList.map (cell 2)) ∧
    Progress.Fair ((⟨3, false⟩ : Pool).share 4) (· % 3) ∧
      ∃ time, ((⟨3, false⟩ : Pool).progress 4 none (fun _ => {}) (Progress.movesUntil (· % 3) time)).isOver = true := by
  obtain ⟨-, ofGrid, ends⟩ := callsOnce_of_schedule ⟨3, false⟩
  have fits : (2 : Int64).toInt * (2 : Int64).toInt < 2 ^ 63 := by decide
  have countable : (⟨3, false⟩ : Pool).Countable (cells 2 2) := by decide
  have ended : ((⟨3, false⟩ : Pool).progress (cells 2 2) none (fun _ => {})
      ((List.range 36).map (· % 3))).isOver = true := rfl
  have fair : Progress.Fair ((⟨3, false⟩ : Pool).share 4) (· % 3) := by
    intro worker below time
    have three : (⟨3, false⟩ : Pool).share 4 = 3 := rfl
    refine ⟨3 * time + worker, by omega, ?_⟩
    show (3 * time + worker) % 3 = worker
    omega
  exact ⟨⟨fits, countable, ((ofGrid 2 2 fits countable _).complete ended).1⟩, fair, ends 4 countable _ fair⟩

/-- A pool of two workers. -/
def twoWorkers : Pool where
  workers := 2

/-- Two workers at a row of 2^63 - 1 cells: when the first one has been at all of them and has stopped, the second one
    goes to a cell outside of the grid. A pool of 2^62 workers cannot be made. -/
theorem dispatch_outside :
    ((∀ processors, make 2 processors = .ok twoWorkers) ∧ Int64.maxValue.toInt * (1 : Int64).toInt < 2 ^ 63 ∧
      ∃ schedule, (-1, -1) ∈ (twoWorkers.progress (cells Int64.maxValue 1) none (fun _ => {})
        schedule).started.toList.map (cell Int64.maxValue)) ∧
    ∀ processors, make 4611686018427387904 processors = .error .sizeOutOfRange := by
  refine ⟨⟨make_of_positive (by decide), by decide, ?_⟩, make_of_positive (by decide)⟩
  have crowded : ¬twoWorkers.Countable (cells Int64.maxValue 1) := by decide
  obtain ⟨schedule, started⟩ := exists_negative (by decide) crowded
  exact ⟨schedule, List.mem_map.mpr ⟨Int64.minValue, started, by decide⟩⟩

end Pool

end KernelForge
