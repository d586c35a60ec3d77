import EntityGen.Fault
import EntityGen.Identifier
import EntityGen.JavaType
import EntityGen.Schema

/-!
# Entities

An entity is everything that the source of one class depends on. Its fields are columns whose Java
types are decided.
-/
namespace EntityGen

namespace Kind

/-- The descriptor of a kind that can be generated. -/
def resolve (kind : Kind) : Except Fault TypeDescriptor :=
  match kind.descriptor? with
  | none => .error (.noMapping kind)
  | some descriptor => if kind.isUnsupported then .error (.unsupportedKind kind) else .ok descriptor

end Kind

/-- A column with its Java type. -/
structure Field where
  /-- The column's name. -/
  name : String
  /-- The property's name. -/
  property : String
  kind : Kind
  /-- The declared type. -/
  typeName : String
  runtimeType : RuntimeType
  nullable : Bool
  primitive : Bool
  immutable : Bool
  numeric : Bool
  primaryKey : Bool
  length : Option Nat
  sequence : Option String
  deriving DecidableEq, Repr

namespace Field

/-- The field of a column, if its kind can be generated. -/
def ofColumn (column : Column) : Except Fault Field := do
  let descriptor ← column.kind.resolve
  return {
    name := column.name
    property := Identifier.javaProperty column.name
    kind := column.kind
    typeName := descriptor.typeName column.nullable
    runtimeType := descriptor.runtimeType column.nullable
    nullable := column.nullable
    primitive := column.kind.isPrimitiveField column.nullable
    immutable := column.kind.isImmutable
    numeric := column.kind.isNumeric
    primaryKey := column.primaryKey
    length := column.length
    sequence := column.sequence }

end Field

/-- Whether an entity is a table or a view. -/
inductive EntityKind
  | table
  | view
  deriving DecidableEq, Repr

/-- The word for a sort of entity. -/
def EntityKind.name : EntityKind → String
  | table => "table"
  | view => "view"

/-- Everything that the source of a class depends on. -/
structure Entity where
  /-- The name of the table or view. -/
  sourceName : String
  kind : EntityKind
  database : String
  className : String
  packageName : String
  fields : List Field
  /-- The sequences of the table; a view has none. -/
  sequences : List String
  deriving DecidableEq, Repr

/-- The fields of the primary key. -/
def Entity.primaryKey (entity : Entity) : List Field := entity.fields.filter (·.primaryKey)

end EntityGen
