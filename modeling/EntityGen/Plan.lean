import EntityGen.Entity
import EntityGen.Settings

/-!
# Plans

A plan has one job for every table and then for every view. The first entity whose class takes a file
keeps it, compared without case; a later one that would take the same file is marked and fails.
-/
namespace EntityGen

/-- A table or a view. -/
inductive Source
  | table (table : Table)
  | view (view : View)
  deriving DecidableEq, Repr

namespace Source

/-- The declared name. -/
def name : Source → String
  | table t => t.name
  | view v => v.name

/-- Whether it is a table or a view. -/
def kind : Source → EntityKind
  | table _ => .table
  | view _ => .view

/-- The columns. -/
def columns : Source → List Column
  | table t => t.columns
  | view v => v.columns

/-- The sequences; a view has none. -/
def sequenceNames : Source → List String
  | table t => t.sequenceNames
  | view _ => []

end Source

/-- The sources of a schema: the tables, then the views. -/
def Schema.sources (schema : Schema) : List Source :=
  schema.tables.map .table ++ schema.views.map .view

namespace Schema

/-- The place of a table or a view in a schema. -/
inductive Place (schema : Schema)
  | table (index : Fin schema.tables.length)
  | view (index : Fin schema.views.length)
  deriving DecidableEq, Repr

/-- The table or view at a place. -/
def Place.source {schema : Schema} : schema.Place → Source
  | table index => .table schema.tables[index]
  | view index => .view schema.views[index]

/-- Whether a table or a view is at a place. -/
def Place.kind {schema : Schema} : schema.Place → EntityKind
  | table _ => .table
  | view _ => .view

/-- The places of a schema: those of the tables, then those of the views. -/
def places (schema : Schema) : List schema.Place :=
  (List.finRange schema.tables.length).map .table ++ (List.finRange schema.views.length).map .view

end Schema

/-- The work of generating one class. All jobs of a plan share the schema, and each reads it at a place
of its own. -/
structure Job where
  schema : Schema
  place : schema.Place
  packageName : String
  /-- The earlier entity that has taken the class file. -/
  collidesWith : Option String
  deriving DecidableEq, Repr

namespace Job

/-- The name of the database. -/
def database (job : Job) : String := job.schema.name

/-- The table or view that the class is generated for. -/
def source (job : Job) : Source := job.place.source

/-- The name of the table or view. -/
def name (job : Job) : String := job.source.name

/-- Whether the job is for a table or a view. -/
def kind (job : Job) : EntityKind := job.place.kind

/-- The name of the generated class. -/
def className (job : Job) : String := Identifier.javaClass job.name

end Job

/-- The key of a class file: package and class in lower case. -/
def fileKey (packageName className : String) : String :=
  Text.lowercase (packageName ++ "." ++ className)

/-- Plans jobs one after the other. `claimed` maps the keys that are taken to the names of the
entities that took them. -/
def planFrom (schema : Schema) (packageName : String) :
    (claimed : List (String × String)) → List schema.Place → List Job
  | _, [] => []
  | claimed, place :: rest =>
    let name := place.source.name
    let key := fileKey packageName (Identifier.javaClass name)
    let owner := claimed.lookup key
    let claimed := if owner.isSome then claimed else (key, name) :: claimed
    ⟨schema, place, packageName, owner⟩ :: planFrom schema packageName claimed rest

/-- The plan of a schema. -/
def Schema.plan (schema : Schema) (settings : Settings) : List Job :=
  planFrom schema (settings.packageFor schema.name) [] schema.places

/-- The clash of two fields with one property: the later field's index decides, and the earlier field
is the last one before it with the property. `earlier` holds the fields before, the last one first. -/
def propertyClash? (earlier : List Field) : List Field → Option (Field × Field)
  | [] => none
  | field :: rest =>
    match earlier.find? (·.property == field.property) with
    | some first => some (first, field)
    | none => propertyClash? (field :: earlier) rest

namespace Job

/-- Resolves the columns in order, up to the first that has no Java type. -/
def fields (job : Job) : Except Fault (List Field) := job.source.columns.mapM Field.ofColumn

/-- The entity of the job, if its columns have Java types and different properties. -/
def describe (job : Job) : Except Fault Entity := do
  let fields ← job.fields
  match propertyClash? [] fields with
  | some (first, second) =>
    throw (.emitterFailure job.name
      ("columns [" ++ first.name ++ "] and [" ++ second.name ++ "] both map to property ["
        ++ second.property ++ "]"))
  | none =>
    return {
      sourceName := job.name
      kind := job.kind
      database := job.database
      className := job.className
      packageName := job.packageName
      fields := fields
      sequences := job.source.sequenceNames }

end Job

end EntityGen
