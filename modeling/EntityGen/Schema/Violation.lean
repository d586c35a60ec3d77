import EntityGen.Fault
import EntityGen.Identifier
import EntityGen.Schema

/-!
# Violations

The rules of a schema, walked in a fixed order: for each table its own rules, then its name against
the earlier ones, then its sequences; then the views. Names are compared exactly. `violations` lists
every breach and `check` stops at the first.
-/
namespace EntityGen

/-- Breaches of the column rules. A name that is not usable is not compared with the others. -/
def columnViolations (owner : String) : (seen : List String) → List Column → List Fault
  | _, [] => []
  | seen, column :: rest =>
    match Identifier.flaw? column.name with
    | some flaw =>
      .invalidTable owner ("column " ++ flaw.message) :: columnViolations owner seen rest
    | none =>
      if seen.contains column.name then
        .duplicateColumn owner column.name :: columnViolations owner seen rest
      else columnViolations owner (column.name :: seen) rest

/-- Breaches of the rule for the name of a table or view. -/
def nameViolations (name : String) : List Fault :=
  match Identifier.flaw? name with
  | some flaw => [.invalidTable name flaw.message]
  | none => []

namespace Table

/-- Breaches of the rule for declared sequences. -/
def sequenceViolations (table : Table) : List Fault :=
  (table.sequences.filter Text.isAllBlank).map fun _ =>
    .invalidTable table.name "sequence name cannot be empty"

/-- Breaches of the table's own rules. -/
def violations (table : Table) : List Fault :=
  nameViolations table.name ++ table.sequenceViolations
    ++ columnViolations table.name [] table.columns

/-- The first breach of the table's own rules. -/
def check (table : Table) : Except Fault Unit :=
  match table.violations with
  | [] => .ok ()
  | fault :: _ => .error fault

end Table

/-- Breaches of the view's own rules. -/
def View.violations (view : View) : List Fault :=
  nameViolations view.name ++ columnViolations view.name [] view.columns

namespace Schema

/-- Names that were met so far. -/
structure Seen where
  /-- Names of tables and views. -/
  entities : List String
  sequences : List String

/-- A walk over a schema: the names met and the breaches found, the latest first. -/
structure Walk where
  seen : Seen
  found : List Fault

/-- A step of the walk. `stop` says that the walk ends at the first breach. -/
abbrev Visit := ExceptT Unit (StateM Walk) Unit

namespace Visit

/-- Notes a breach. -/
def note (stop : Bool) (fault : Fault) : Visit := do
  modify fun walk => { walk with found := fault :: walk.found }
  if stop then throw ()

/-- Meets the name of a table or view and notes a breach if it was met before. -/
def meetEntity (stop : Bool) (name : String) (fault : Fault) : Visit := do
  if (← get).seen.entities.contains name then note stop fault
  else modify fun walk =>
    { walk with seen := { walk.seen with entities := name :: walk.seen.entities } }

/-- Meets a sequence and notes a breach if it was met before. -/
def meetSequence (stop : Bool) (database name : String) : Visit := do
  if (← get).seen.sequences.contains name then note stop (.duplicateSequence name database)
  else modify fun walk =>
    { walk with seen := { walk.seen with sequences := name :: walk.seen.sequences } }

/-- Visits a table. -/
def table (stop : Bool) (database : String) (table : Table) : Visit := do
  table.violations.forM (note stop)
  meetEntity stop table.name (.duplicateTable table.name database)
  table.sequenceNames.forM (meetSequence stop database)

/-- Visits a view. -/
def view (stop : Bool) (database : String) (view : View) : Visit := do
  view.violations.forM (note stop)
  meetEntity stop view.name (.duplicateView view.name database)

end Visit

/-- The breaches that a walk finds, in order. -/
def walk (schema : Schema) (stop : Bool) : List Fault :=
  let visit : Visit := do
    schema.tables.forM (Visit.table stop schema.name)
    schema.views.forM (Visit.view stop schema.name)
  (visit.run.run ⟨⟨[], []⟩, []⟩).2.found.reverse

/-- Every breach of the rules. -/
def violations (schema : Schema) : List Fault := schema.walk false

/-- Accepts a schema, or refuses it with the first breach. -/
def check (schema : Schema) : Except Fault Unit :=
  match schema.walk true with
  | [] => .ok ()
  | fault :: _ => .error fault

end Schema

end EntityGen
