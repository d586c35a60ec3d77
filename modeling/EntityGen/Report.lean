import EntityGen.Document.Json.Writer
import EntityGen.Emission
import EntityGen.Instant

/-!
# Reports

A collector takes the outcomes of jobs in any order. The report that it gives in the end lists
failures and artifacts by name, so it hardly depends on that order.
-/
namespace EntityGen

/-- How a run ended. -/
inductive RunStatus
  | completed
  | failed
  | cancelled
  deriving DecidableEq, Repr

/-- The word for a status. -/
def RunStatus.name : RunStatus → String
  | completed => "completed"
  | failed => "failed"
  | cancelled => "cancelled"

/-- A table or view that was not generated. -/
structure TableError where
  table : String
  fault : Fault
  deriving DecidableEq, Repr

/-- What was generated for a table or view. -/
structure ArtifactSummary where
  table : String
  kind : EntityKind
  className : String
  path : Path
  files : UInt64
  deriving DecidableEq, Repr

/-- A run's name and its times. -/
structure RunStamp where
  runId : String
  startedAt : Instant
  completedAt : Instant
  deriving DecidableEq, Repr

/-- The result of a run. -/
structure Report where
  stamp : RunStamp
  status : RunStatus
  /-- Entities whose job ran. -/
  tablesProcessed : Nat
  filesGenerated : UInt64
  /-- Entities whose job was not started. -/
  tablesSkipped : Nat
  /-- Failures by name. -/
  errors : List TableError
  /-- What was generated, by name. -/
  artifacts : List ArtifactSummary
  deriving DecidableEq, Repr

/-- The outcomes met so far. -/
structure Collector where
  processed : Nat
  /-- The sum of the files made, in 64 bits. -/
  files : UInt64
  skipped : Nat
  errors : List TableError
  artifacts : List ArtifactSummary
  deriving DecidableEq, Repr

namespace Collector

/-- The collector before any outcome. -/
def empty : Collector := ⟨0, 0, 0, [], []⟩

/-- Takes the outcome of a job that ran. -/
def record (collector : Collector) (table : String) : Except Fault JobResult → Collector
  | .ok result =>
    { collector with
      processed := collector.processed + 1
      files := collector.files + result.files
      artifacts := collector.artifacts ++
        [⟨result.entity, result.kind, result.className, result.path, result.files⟩] }
  | .error fault =>
    { collector with
      processed := collector.processed + 1
      errors := collector.errors ++ [⟨table, fault⟩] }

/-- Takes a job that was not started. -/
def skip (collector : Collector) : Collector :=
  { collector with skipped := collector.skipped + 1 }

/-- The number of failures so far. -/
def failed (collector : Collector) : Nat := collector.errors.length

/-- The status that the outcomes amount to. -/
def status (collector : Collector) : RunStatus :=
  if !collector.errors.isEmpty then .failed
  else if 0 < collector.skipped then .cancelled
  else .completed

/-- The report of the outcomes. -/
def report (collector : Collector) (stamp : RunStamp) : Report where
  stamp
  status := collector.status
  tablesProcessed := collector.processed
  filesGenerated := collector.files
  tablesSkipped := collector.skipped
  errors := collector.errors.mergeSort fun a b => a.table ≤ b.table
  artifacts := collector.artifacts.mergeSort fun a b => a.table ≤ b.table

end Collector

namespace Report

/-- Every job ran and succeeded. -/
def isSuccess (report : Report) : Bool := report.status == .completed

/-- The duration in seconds as a sign and a double. -/
def duration (report : Report) : Bool × Number.Binary64 :=
  let milliseconds := report.stamp.startedAt.millisecondsTo report.stamp.completedAt
  let seconds := do
    let value ← Number.Binary64.ofNat? milliseconds.natAbs
    value.div? (← Number.Binary64.ofNat? 1000)
  (milliseconds < 0, seconds.getD ⟨0, 0⟩)

/-- The duration in seconds with two places. -/
def durationText (report : Report) : String :=
  Number.hundredths report.duration.1 report.duration.2

/-- The report in one line. -/
def summary (report : Report) : String :=
  "Generated " ++ toString report.filesGenerated.toNat ++ " file(s) for "
    ++ toString report.tablesProcessed ++ " table(s) in " ++ report.durationText ++ "s. "
    ++ toString report.errors.length ++ " failed, " ++ toString report.tablesSkipped ++ " skipped."

/-- A failure as a document. -/
def errorNode (error : TableError) : Document.Json :=
  .ofMembers [("table", .ofString error.table), ("message", .ofString error.fault.message)]

/-- A generated entity as a document. -/
def artifactNode (artifact : ArtifactSummary) : Document.Json :=
  .ofMembers [("table", .ofString artifact.table), ("kind", .ofString artifact.kind.name),
    ("class_name", .ofString artifact.className), ("path", .ofString artifact.path.text),
    ("files", .ofNat artifact.files.toNat)]

/-- The report as a document. -/
def node (report : Report) : Document.Json :=
  .ofMembers [("run_id", .ofString report.stamp.runId), ("status", .ofString report.status.name),
    ("started_at", .ofString report.stamp.startedAt.text),
    ("completed_at", .ofString report.stamp.completedAt.text),
    ("duration_seconds", .number (some (.floating report.duration.1 report.duration.2))),
    ("tables_processed", .ofNat report.tablesProcessed),
    ("files_generated", .ofNat report.filesGenerated.toNat),
    ("tables_skipped", .ofNat report.tablesSkipped),
    ("errors", .ofList (report.errors.map errorNode)),
    ("artifacts", .ofList (report.artifacts.map artifactNode))]

/-- The report as an indented JSON text. -/
def toJson (report : Report) : String := report.node.indented

end Report

end EntityGen
