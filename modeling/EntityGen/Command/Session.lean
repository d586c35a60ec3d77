import EntityGen.Command.Arguments
import EntityGen.Command.TypeTable
import EntityGen.Config.Load
import EntityGen.Run.Pool
import EntityGen.Schema.Load
import EntityGen.Sink

/-!
# Command sessions

What a command does once its arguments are understood. A session acts on a host: the files it may use,
a clock, the number of processor cores, and the order in which the jobs of a run get on. It ends in a
result that says what is printed and with which code the command exits.
-/
namespace EntityGen.Command

/-- The surroundings of a command. -/
structure Host (m : Type → Type) where
  files : FileAccess m
  now : m Instant
  /-- A name for a run. -/
  runId : m String
  cores : m Nat
  /-- How the jobs of a run interleave; a signal that stops the run is among its moves. -/
  schedule : List Move := []

/-- How a command ends. -/
structure Result where
  exitCode : Nat
  /-- The lines that are printed. -/
  output : List String
  /-- What was noted while the schema was read. -/
  warnings : List Warning := []
  /-- The fault that ended the command. -/
  fault : Option Fault := none
  /-- What is said of a breakdown that ended the command. -/
  breakdown : Option String := none
  deriving DecidableEq, Repr

namespace Result

/-- A command that ends by a fault prints nothing. -/
def ofFault (fault : Fault) : Result where
  exitCode := fault.exitCode
  output := []
  fault := some fault

/-- The exit code of a breakdown. -/
def breakdownCode : Nat := 101

/-- A command that ends by a breakdown prints nothing. -/
def ofBreakdown (message : String) : Result where
  exitCode := breakdownCode
  output := []
  breakdown := some message

/-- The result of an attempt. -/
def ofExcept : Except Fault Result → Result
  | .ok result => result
  | .error fault => ofFault fault

end Result

/-- The name and version of the command. -/
def versionLine : String := "schemagen 0.1.0"

/-- How the command is used. -/
def usageLines : List String :=
  ["Generate JPA entity classes from a database schema description", "",
    "Usage: schemagen [OPTIONS] <COMMAND>", "",
    "Commands:",
    "  generate  Generate one entity class per table and view",
    "  validate  Validate the schema without generating anything",
    "  types     Print the column type mapping table", "",
    "Options:",
    "  -c, --config <CONFIG>          Path to YAML configuration file [default: config.yaml]",
    "      --output-json              Output JSON result to stdout",
    "      --log-format <LOG_FORMAT>  Log format: text or json [default: text]",
    "      --verbosity <VERBOSITY>    Log verbosity: debug, info, warn, error [default: info]",
    "  -h, --help                     Print help",
    "  -V, --version                  Print version"]

/-- The exit code when arguments are not understood. -/
def misuseCode : Nat := 2

/-- The exit code of a run by how it ended. -/
def statusCode : RunStatus → Nat
  | .completed => 0
  | .failed => 3
  | .cancelled => 130

/-- The words for how much is logged. -/
def verbosities : List String := ["debug", "info", "warn", "error"]

/-- The forms of log lines. -/
def logFormats : List String := ["json", "text"]

/-- Checks the options for logging; case does not matter in the first. -/
def checkLogging (verbosity logFormat : String) : Except Fault Unit :=
  if !verbosities.contains (Text.lowercase verbosity) then
    .error (.config ("unknown verbosity '" ++ Text.lowercase verbosity ++ "'"))
  else if !logFormats.contains logFormat then
    .error (.config ("unknown log format '" ++ logFormat ++ "'"))
  else .ok ()

/-- The warnings that are shown; the sparest verbosity shows none. -/
def shownWarnings (verbosity : String) (warnings : List Warning) : List Warning :=
  if Text.lowercase verbosity == "error" then [] else warnings

/-- The path of the schema: relative to the directory of the configuration file. -/
def schemaPath (config schema : Path) : Path :=
  match config.parent? with
  | some directory =>
    if schema.isAbsolute || directory.text.isEmpty then schema else directory.join schema
  | none => schema

namespace GenerateOptions

/-- The configuration with what the options replace. -/
def apply (options : GenerateOptions) (config : Config) : Config :=
  { config with
    schema := options.schema.getD config.schema
    output := { config.output with
      directory := options.outputDirectory.getD config.output.directory }
    runtime :=
      ⟨options.workers <|> config.runtime.workers, config.runtime.failFast || options.failFast⟩ }

end GenerateOptions

/-- The lines for what was generated and what failed. -/
def entityLines (report : Report) : List String :=
  report.artifacts.map (fun artifact =>
    "  " ++ artifact.table ++ " -> " ++ artifact.path.text ++ " ("
      ++ toString artifact.files.toNat ++ " file" ++ (if artifact.files == 1 then "" else "s")
      ++ ")")
  ++ report.errors.map fun error => "  " ++ error.table ++ " FAILED: " ++ error.fault.message

/-- The line that says how a run ended. -/
def statusLine (status : RunStatus) (dryRun : Bool) : String :=
  match status with
  | .completed => if dryRun then "Dry run completed!" else "Generation completed!"
  | .failed => "Generation finished with errors."
  | .cancelled => "Generation cancelled."

/-- The lines of a report. -/
def reportLines (report : Report) (dryRun : Bool) (output : Path) : List String :=
  entityLines report
    ++ ["", statusLine report.status dryRun,
      "  Run ID: " ++ report.stamp.runId,
      "  Duration: " ++ report.durationText ++ "s",
      "  Tables: " ++ toString report.tablesProcessed,
      "  Files: " ++ toString report.filesGenerated.toNat]
    ++ (if dryRun then [] else ["  Output: " ++ output.text])
    ++ (if report.tablesSkipped == 0 then []
      else ["  Skipped: " ++ toString report.tablesSkipped])
    ++ (if report.errors.isEmpty then [] else ["  Failed: " ++ toString report.errors.length])

/-- The result of a run. -/
def Result.ofReport (report : Report) (outputJson dryRun : Bool) (output : Path) : Result where
  exitCode := statusCode report.status
  output := if outputJson then [report.toJson] else reportLines report dryRun output

/-- The result of checking a schema up to its first breach. -/
def checkResult (schema : Schema) : Except Fault Result := do
  schema.check
  return {
    exitCode := 0
    output := ["Schema [" ++ schema.name ++ "] is valid: " ++ toString schema.tables.length
      ++ " tables, " ++ toString schema.views.length ++ " views"] }

/-- The result of checking a schema for every breach. -/
def violationsResult (schema : Schema) (outputJson : Bool) : Result :=
  let violations := schema.violations
  { exitCode := (violations.head?.map Fault.exitCode).getD 0
    output :=
      if outputJson then
        [(Document.Json.ofList (violations.map fun fault => .ofString fault.message)).indented]
      else if violations.isEmpty then ["Schema [" ++ schema.name ++ "] is valid"]
      else ("Schema [" ++ schema.name ++ "] has " ++ toString violations.length ++ " violation(s):")
        :: violations.map fun fault => "  " ++ fault.message }

section Session

variable {m : Type → Type} [Monad m]

/-- Loads a schema and goes on with it. -/
def withSchema (host : Host m) (invocation : Invocation) (config : Config)
    (next : Schema → m (Except Fault Result)) : m Result := do
  let (loaded, warnings) ← Schema.load host.files (schemaPath invocation.config config.schema)
  let warnings := shownWarnings invocation.verbosity warnings
  match loaded with
  | .error cause => return { Result.ofFault cause.fault with warnings }
  | .ok schema => return { Result.ofExcept (← next schema) with warnings }

/-- Runs the plan of a schema, with sources kept in memory or written to the output directory. -/
def emit (host : Host m) (schema : Schema) (config : Config) (dryRun : Bool) (stamp : RunStamp) :
    m (Except Halt Report) :=
  let settings := Settings.ofConfig config
  if dryRun then
    let run : StateM (List Artifact) (Except Halt Report) :=
      schema.generate settings (sourceEmitters memorySink) stamp host.schedule
    return (run.run []).1
  else
    schema.generate settings (sourceEmitters (directorySink host.files config.output.directory))
      stamp host.schedule

/-- Generates the classes of a schema. -/
def generate (host : Host m) (invocation : Invocation) (options : GenerateOptions)
    (config : Config) (schema : Schema) : m (Except Fault Result) := do
  let runId ← host.runId
  let startedAt ← host.now
  match ← emit host schema config options.dryRun ⟨runId, startedAt, startedAt⟩ with
  | .error (.rejected fault) => return .error fault
  | .error (.crashed message) => return .ok (.ofBreakdown message)
  | .ok report =>
    let report := { report with stamp := ⟨runId, startedAt, ← host.now⟩ }
    return .ok (.ofReport report invocation.outputJson options.dryRun config.output.directory)

/-- Loads the configuration of a command and goes on with it. -/
def withConfig (host : Host m) (invocation : Invocation) (next : Config → m Result) :
    m Result := do
  match checkLogging invocation.verbosity invocation.logFormat with
  | .error fault => return .ofFault fault
  | .ok () =>
    match ← Config.load host.files invocation.config with
    | .error fault => return .ofFault fault
    | .ok config => next (config.tuned (← host.cores))

/-- Runs a command. -/
def runInvocation (host : Host m) (invocation : Invocation) : m Result :=
  match invocation.action with
  | .types => return {
      exitCode := 0
      output := if invocation.outputJson then [TypeTable.node.indented] else TypeTable.lines }
  | .generate options => withConfig host invocation fun config =>
    let config := options.apply config
    match config.check with
    | .error fault => return .ofFault fault
    | .ok () => withSchema host invocation config (generate host invocation options config)
  | .validate all => withConfig host invocation fun config =>
    withSchema host invocation config fun schema =>
      return if all then .ok (violationsResult schema invocation.outputJson)
        else checkResult schema

/-- Runs what the words of a command ask for. -/
def run (host : Host m) (words : List String) : m Result :=
  match Request.ofWords words with
  | .run invocation => runInvocation host invocation
  | .version => return { exitCode := 0, output := [versionLine] }
  | .help => return { exitCode := 0, output := usageLines }
  | .misuse => return { exitCode := misuseCode, output := [] }

end Session

end EntityGen.Command
