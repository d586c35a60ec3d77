import EntityGen.Run

/-!
# Runs on a pool of workers

Jobs are assigned in the order of the plan while a worker is free, and an assigned job executes at
some later point. A schedule says at which: it is a list of moves, and what it leaves open is settled
in the order of the plan. Cancelling the run keeps jobs from being assigned and lets assigned ones
finish.
-/
namespace EntityGen

/-- How far a planned job has come. -/
inductive Progress
  | waiting
  /-- A worker has taken the job. -/
  | assigned
  /-- The run was cancelled before a worker took the job. -/
  | skipped
  | finished (outcome : Outcome)
  deriving DecidableEq, Repr

/-- A planned job and how far it has come. -/
structure Slot where
  job : Job
  progress : Progress
  deriving DecidableEq, Repr

/-- A run on a pool. -/
structure Pool where
  slots : List Slot
  cancelled : Bool
  deriving DecidableEq, Repr

/-- A decision of the schedule. -/
inductive Move
  /-- The next waiting job is assigned, or skipped when the run is cancelled. -/
  | assign
  /-- The assigned job at a place of the plan executes. -/
  | execute (place : Nat)
  /-- The run is cancelled from outside. -/
  | cancel
  deriving DecidableEq, Repr

namespace Pool

/-- A run before its first move. -/
def start (jobs : List Job) : Pool := ⟨jobs.map fun job => ⟨job, .waiting⟩, false⟩

/-- The number of workers that have a job. -/
def busy (pool : Pool) : Nat := pool.slots.countP (·.progress == .assigned)

/-- The pool with another progress of the job at a place. -/
def mark (pool : Pool) (place : Nat) (progress : Progress) : Pool :=
  { pool with slots := pool.slots.modify place fun slot => { slot with progress } }

/-- Assigns or skips the next waiting job. Nothing happens while every worker is busy. -/
def assign (workers : Nat) (pool : Pool) : Pool :=
  match pool.slots.findIdx? (·.progress == .waiting) with
  | none => pool
  | some place =>
    if pool.cancelled then pool.mark place .skipped
    else if pool.busy < workers then pool.mark place .assigned
    else pool

variable {m : Type → Type} [Monad m]

/-- Executes the assigned job at a place. A failure cancels the run under fail-fast; a crash does
not. -/
def execute (settings : Settings) (factory : EmitterFactory m) (place : Nat) (pool : Pool) :
    m Pool := do
  match pool.slots[place]? with
  | some ⟨job, .assigned⟩ =>
    let (outcome, stop) ← job.execute factory settings.options
    let pool := pool.mark place (.finished outcome)
    return { pool with
      cancelled := pool.cancelled || stop || (settings.failFast && outcome.isFailed) }
  | _ => return pool

/-- The number of workers of a run; there is always one. -/
def workers (settings : Settings) : Nat := max settings.workers 1

/-- The greatest number of workers that a pool can hold. -/
def maxWorkers : Nat := UInt64.size / 8 - 1

/-- What is said of a pool that cannot hold its workers. -/
def breakdown : String := "a pool may not have more than " ++ toString maxWorkers ++ " workers"

/-- Makes a move. A move that is not possible changes nothing. -/
def step (settings : Settings) (factory : EmitterFactory m) (pool : Pool) : Move → m Pool
  | .assign => return pool.assign (workers settings)
  | .execute place => pool.execute settings factory place
  | .cancel => return { pool with cancelled := true }

/-- Settles what is left open, in the order of the plan. -/
def settle (settings : Settings) (factory : EmitterFactory m) (pool : Pool) : m Pool :=
  (List.range pool.slots.length).foldlM
    (fun pool place => do
      let pool ← pool.execute settings factory place
      let pool := if (pool.slots[place]?.any (·.progress == .waiting)) then
        pool.assign (workers settings) else pool
      pool.execute settings factory place)
    pool

/-- The fault of a job whose emitter crashed. -/
def crashFault (job : Job) (place : Nat) (message : String) : Fault :=
  .emitterFailure job.name
    ("task panicked: task " ++ toString place ++ " panicked with message " ++ Text.quoted message)

/-- Takes what came of the job at a place. -/
def collectSlot (collector : Collector) (slot : Slot) (place : Nat) : Collector :=
  match slot.progress with
  | .finished (.done result) => collector.record slot.job.name (.ok result)
  | .finished (.failed fault) => collector.record slot.job.name (.error fault)
  | .finished (.crashed message) =>
    collector.record slot.job.name (.error (crashFault slot.job place message))
  | _ => collector.skip

/-- What came of the jobs, in the order of the plan. -/
def collect (pool : Pool) : Collector :=
  pool.slots.zipIdx.foldl (fun collector entry => collectSlot collector entry.1 entry.2) .empty

/-- Runs jobs by a schedule. -/
def run (settings : Settings) (factory : EmitterFactory m) (schedule : List Move)
    (jobs : List Job) : m Collector := do
  let pool ← schedule.foldlM (step settings factory) (start jobs)
  let pool ← pool.settle settings factory
  return pool.collect

end Pool

/-- Checks a schema and generates every table and view on a pool of workers. A pool that cannot hold
its workers breaks down before the first job. -/
def Schema.generate {m : Type → Type} [Monad m] (schema : Schema) (settings : Settings)
    (factory : EmitterFactory m) (stamp : RunStamp) (schedule : List Move) :
    m (Except Halt Report) := do
  match schema.check with
  | .error fault => return .error (.rejected fault)
  | .ok () =>
    if Pool.maxWorkers < Pool.workers settings then return .error (.crashed Pool.breakdown)
    else
      let collector ← Pool.run settings factory schedule (schema.plan settings)
      return .ok (collector.report stamp)

end EntityGen
