import EntityGen.Report
import EntityGen.Schema.Violation

/-!
# Runs in order

A run checks the schema and executes its plan one job after the other. With fail-fast the first
failure stops it, and the jobs behind are counted as skipped.
-/
namespace EntityGen

/-- Why a run gives no report. -/
inductive Halt
  | rejected (fault : Fault)
  /-- Something broke down and took the run with it. -/
  | crashed (message : String)
  deriving DecidableEq, Repr

variable {m : Type → Type} [Monad m]

/-- Executes jobs in order until one stops the run, and collects what comes of them. -/
def runInOrder (settings : Settings) (factory : EmitterFactory m) :
    (stopped : Bool) → List Job → Collector → m (Except String Collector)
  | _, [], collector => return .ok collector
  | true, _ :: rest, collector => runInOrder settings factory true rest collector.skip
  | false, job :: rest, collector => do
    let (outcome, _) ← job.execute factory settings.options
    match outcome with
    | .crashed message => return .error message
    | .failed fault =>
      runInOrder settings factory settings.failFast rest (collector.record job.name (.error fault))
    | .done result =>
      runInOrder settings factory false rest (collector.record job.name (.ok result))

/-- Checks a schema and generates every table and view in order. -/
def Schema.build (schema : Schema) (settings : Settings) (factory : EmitterFactory m)
    (stamp : RunStamp) : m (Except Halt Report) := do
  match schema.check with
  | .error fault => return .error (.rejected fault)
  | .ok () =>
    match ← runInOrder settings factory false (schema.plan settings) .empty with
    | .error message => return .error (.crashed message)
    | .ok collector => return .ok (collector.report stamp)

end EntityGen
