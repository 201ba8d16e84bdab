import KernelForge.Failure

/-!
A pool of workers that share out numbered jobs. Each worker takes the next number from a common counter and
runs its job, until the numbers are used up or the work is called off. Looking whether it was called off, taking
a number, starting its job and ending it are moves of their own, and any other worker may move in between. Which
worker moves next is decided from outside: a schedule is a list of workers, and the moves of the chosen workers
are all that happens. The counter has 64 bits and wraps.
-/

namespace KernelForge

/-- What a worker is doing. -/
inductive Worker
  /-- It is about to look whether the work was called off. -/
  | ready
  /-- It is about to take a number. -/
  | taking
  /-- It is about to start the job with a number. -/
  | holding (index : Int64)
  /-- It is in the job with a number. -/
  | busy (index : Int64)
  /-- It stopped. -/
  | done
  deriving DecidableEq, Repr, Inhabited

/-- What running a job leads to: the caller may call the work off while it runs, and the job may fail. -/
structure JobOutcome where
  calledOff : Option Failure := none
  failure : Option Failure := none

/-- How far the work is: the counter, the workers, the jobs in the order in which they were started and
    finished, and why the work was called off. -/
structure Progress where
  next : Int64 := 0
  workers : List Worker
  started : Array Int64 := #[]
  finished : Array Int64 := #[]
  cause : Option Failure := none

namespace Progress

/-- A number of workers before the first move. -/
def start (workers : Nat) (cause : Option Failure) : Progress :=
  { workers := List.replicate workers .ready, cause }

/-- A worker that is free stops if the work was called off. -/
def look (progress : Progress) (worker : Nat) : Progress :=
  { progress with workers := progress.workers.set worker (if progress.cause.isSome then .done else .taking) }

/-- A worker takes the next number, and stops if there is no job with it. -/
def claim (count : Int64) (progress : Progress) (worker : Nat) : Progress :=
  { progress with
    next := progress.next + 1
    workers := progress.workers.set worker (if progress.next < count then .holding progress.next else .done) }

/-- A worker starts the job whose number it took. -/
def call (progress : Progress) (worker : Nat) (index : Int64) : Progress :=
  { progress with
    workers := progress.workers.set worker (.busy index)
    started := progress.started.push index }

/-- A worker ends its job. The first reason to call the work off stays; a worker whose job failed stops. -/
def finish (job : Int64 → JobOutcome) (progress : Progress) (worker : Nat) (index : Int64) : Progress :=
  let outcome := job index
  { progress with
    workers := progress.workers.set worker (if outcome.failure.isSome then .done else .ready)
    finished := progress.finished.push index
    cause := (progress.cause.or outcome.calledOff).or outcome.failure }

/-- One move of a worker. A worker that stopped does not move. -/
def step (count : Int64) (job : Int64 → JobOutcome) (progress : Progress) (worker : Nat) : Progress :=
  match progress.workers[worker]? with
  | some .ready => progress.look worker
  | some .taking => progress.claim count worker
  | some (.holding index) => progress.call worker index
  | some (.busy index) => progress.finish job worker index
  | _ => progress

/-- The moves of a schedule. -/
def run (count : Int64) (job : Int64 → JobOutcome) (progress : Progress) (schedule : List Nat) : Progress :=
  schedule.foldl (step count job) progress

/-- Whether all workers stopped, which is what the caller waits for. -/
def isOver (progress : Progress) : Bool :=
  progress.workers.all (· = .done)

end Progress

/-- A pool: how many workers it has, and whether it was closed. A closed pool has its caller do the work. The queue at
    which the workers wait between two calls is left out. -/
structure Pool where
  workers : Nat
  closed : Bool := false
  deriving DecidableEq, Repr

namespace Pool

/-- A pool with a number of workers, or with one for each processor if that is none. The queue of the workers has room
    for two jobs each, and the computation stops if these are more than can be counted. -/
def make (workers processors : Int64) : Except Failure Pool :=
  let workers := if workers ≤ 0 then processors else workers
  if workers * 2 < 0 then .error .sizeOutOfRange else .ok { workers := workers.toNatClampNeg }

/-- The workers that share a number of jobs. -/
def share (pool : Pool) (count : Int64) : Nat :=
  if pool.closed then 1 else max 1 (min pool.workers count.toNatClampNeg)

/-- Jobs that may fail, after the moves of a schedule. Without any job nobody moves, and the caller's own state
    counts. -/
def progress (pool : Pool) (count : Int64) (cause : Option Failure) (job : Int64 → JobOutcome)
    (schedule : List Nat) : Progress :=
  if count ≤ 0 then Progress.start 0 cause
  else (Progress.start (pool.share count) cause).run count job schedule

/-- The schedule in which the first worker does everything and the others find nothing left. -/
def oneByOne (workers count : Nat) : List Nat :=
  List.replicate (4 * count + 2) 0 ++ (List.range workers).flatMap fun worker => [worker, worker]

/-- Runs jobs that may fail; the result is the first reason to call the work off. -/
def run (pool : Pool) (count : Int64) (cause : Option Failure) (job : Int64 → JobOutcome) : Progress :=
  pool.progress count cause job (oneByOne (pool.share count) count.toNatClampNeg)

/-- Runs jobs that do not fail: their numbers in the order in which they were started. -/
def forEach (pool : Pool) (count : Int64) : List Int64 :=
  (pool.run count none fun _ => {}).started.toList

/-- The number of cells of a grid, in 64 bits. -/
def cells (x y : Int64) : Int64 :=
  if x ≤ 0 || y ≤ 0 then 0 else x * y

/-- The cell with a number in a grid of a width, row by row. -/
def cell (width index : Int64) : Int64 × Int64 :=
  (index % width, index / width)

/-- Runs a job for every cell of a grid: the cells in the order in which they were started. -/
def dispatch (pool : Pool) (x y : Int64) : List (Int64 × Int64) :=
  (pool.forEach (cells x y)).map (cell x)

/-- The pool after it was closed. -/
def close (pool : Pool) : Pool :=
  { pool with closed := true }

end Pool

end KernelForge
