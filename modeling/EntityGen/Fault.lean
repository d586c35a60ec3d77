import EntityGen.Document.Problem
import EntityGen.Kind
import EntityGen.Text.Quoted

/-!
# Faults

Everything that can stop a run, an entity or a command, with its text and its exit code.
-/
namespace EntityGen

/-- Why an operation failed. -/
inductive Fault
  /-- The kind has no Java type. -/
  | noMapping (kind : Kind)
  /-- The kind is recognised but is not generated. -/
  | unsupportedKind (kind : Kind)
  | duplicateTable (table database : String)
  | duplicateSequence (sequence database : String)
  /-- A view's name is taken by a table or another view. -/
  | duplicateView (view database : String)
  | duplicateColumn (table column : String)
  /-- A table or view breaks a rule of its own. -/
  | invalidTable (table reason : String)
  /-- No source could be emitted for a table or view. -/
  | emitterFailure (table reason : String)
  | config (reason : String)
  | schema (reason : String)
  | io (reason : String)
  | yaml (cause : Document.Failure)
  | json (cause : Document.Failure)
  | cancelled
  deriving DecidableEq, Repr

namespace Fault

/-- The text of a fault. -/
def message : Fault → String
  | noMapping kind => "No type mapping for column kind " ++ kind.name
  | unsupportedKind kind => "Unsupported column kind " ++ kind.name
  | duplicateTable table database =>
    "Table named [" ++ table ++ "] already exists in database [" ++ database ++ "]"
  | duplicateSequence sequence database =>
    "Sequence named [" ++ sequence ++ "] already exists in database [" ++ database ++ "]"
  | duplicateView view database =>
    "View named [" ++ view ++ "] already exists in database [" ++ database ++ "]"
  | duplicateColumn table column =>
    "Column named [" ++ column ++ "] already exists in table [" ++ table ++ "]"
  | invalidTable table reason => "Invalid table [" ++ table ++ "]: " ++ reason
  | emitterFailure table reason => "Emitter failed for table " ++ table ++ ": " ++ reason
  | config reason => "Configuration error: " ++ reason
  | schema reason => "Schema document error: " ++ reason
  | io reason => "IO error: " ++ reason
  | yaml cause => "YAML error: " ++ cause.message Text.quoted true
  | json cause => "JSON error: " ++ cause.message Text.quoted false
  | cancelled => "Generation cancelled"

/-- Faults that checking a schema reports. -/
def isViolation : Fault → Bool
  | duplicateTable .. | duplicateSequence .. | duplicateView .. | duplicateColumn ..
  | invalidTable .. => true
  | _ => false

/-- The exit code of a command that ends with this fault. -/
def exitCode (fault : Fault) : Nat :=
  match fault with
  | config _ | yaml _ => 1
  | schema _ | json _ => 2
  | io _ => 7
  | cancelled => 130
  | _ => if fault.isViolation then 2 else 3

/-- The text of the cause, for faults that have one. -/
def cause? : Fault → Option String
  | io reason => some reason
  | yaml cause => some (cause.message Text.quoted true)
  | json cause => some (cause.message Text.quoted false)
  | _ => none

/-- The report of a fault that ends a command. -/
def report (fault : Fault) : String :=
  "Error: " ++ fault.message ++ "\n" ++
    match fault.cause? with
    | some cause => "\nCaused by:\n  1: " ++ cause
    | none => ""

end Fault

/-- The kind of a name, or the fault of a text that names none. -/
def Kind.ofName (text : String) : Except Fault Kind :=
  match Kind.ofName? text with
  | some kind => .ok kind
  | none => .error (.schema ("unknown column type '" ++ text ++ "'"))

end EntityGen
