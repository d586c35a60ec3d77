import EntityGen.Document.Json.Writer
import EntityGen.Schema

/-!
# Schema documents

How a schema is read from the nodes of a document and written as JSON. Reading is generic in the
format of the document. A column whose type is not understood counts as `unknown` and is noted.
-/
namespace EntityGen

open Document

/-- A field that must be there. -/
def need {α : Type} (name : String) : Option α → Except String α
  | some value => .ok value
  | none => .error name

section Reading

variable {ν : Type} (format : Format ν)

namespace Column

/-- A column of which some fields are read. -/
structure Draft where
  name : Option String := none
  kind : Option Kind := none
  nullable : Option Bool := none
  primaryKey : Option Bool := none
  length : Option (Option Nat) := none
  sequence : Option (Option String) := none

/-- The greatest length of a column. -/
def maxLength : Nat := UInt32.size - 1

/-- The kind of a column by its type text. -/
def kindOf (text : TypeText) : Reading Kind := do
  match text.classify with
  | (kind, none) => pure kind
  | (kind, some warning) => Reading.warn warning; pure kind

/-- The field for a column's type. That it is neither a code nor a name is a problem of the column,
not of the type. -/
def typeField : Field ν Draft where
  name := "type"
  required := true
  isSet draft := draft.kind.isSome
  read step node draft := do
    match ← (format.typeText? node).within step with
    | none => Reading.refuse .noTypeText
    | some text => pure { draft with kind := some (← kindOf text) }

/-- How a column is read. -/
def shape : RecordShape ν Draft Column where
  name := "Column"
  fields :=
    [Format.field "name" true (·.name.isSome) (format.text "a string")
        fun draft value => { draft with name := some value },
      typeField format,
      Format.field "nullable" false (·.nullable.isSome) format.flag
        fun draft value => { draft with nullable := some value },
      Format.field "primary_key" false (·.primaryKey.isSome) format.flag
        fun draft value => { draft with primaryKey := some value },
      format.optionalField "length" (·.length.isSome) (format.count "u32" maxLength)
        fun draft value => { draft with length := some value },
      format.optionalField "sequence" (·.sequence.isSome) (format.text "a string")
        fun draft value => { draft with sequence := some value }]
  start := {}
  finish draft := do
    return {
      name := ← need "name" draft.name
      kind := ← need "type" draft.kind
      nullable := draft.nullable.getD false
      primaryKey := draft.primaryKey.getD false
      length := draft.length.getD none
      sequence := draft.sequence.getD none }

/-- Reads a column. -/
def read (node : ν) : Reading Column := (shape format).read format node

end Column

namespace Table

/-- A table of which some fields are read. -/
structure Draft where
  name : Option String := none
  columns : Option (List Column) := none
  sequences : Option (List String) := none

/-- How a table is read. -/
def shape : RecordShape ν Draft Table where
  name := "Table"
  fields :=
    [Format.field "name" true (·.name.isSome) (format.text "a string")
        fun draft value => { draft with name := some value },
      Format.field "columns" false (·.columns.isSome) (format.list (Column.read format))
        fun draft value => { draft with columns := some value },
      Format.field "sequences" false (·.sequences.isSome) (format.list (format.text "a string"))
        fun draft value => { draft with sequences := some value }]
  start := {}
  finish draft := do
    return {
      name := ← need "name" draft.name
      columns := draft.columns.getD []
      sequences := draft.sequences.getD [] }

/-- Reads a table. -/
def read (node : ν) : Reading Table := (shape format).read format node

end Table

namespace View

/-- A view of which some fields are read. -/
structure Draft where
  name : Option String := none
  columns : Option (List Column) := none

/-- How a view is read. -/
def shape : RecordShape ν Draft View where
  name := "View"
  fields :=
    [Format.field "name" true (·.name.isSome) (format.text "a string")
        fun draft value => { draft with name := some value },
      Format.field "columns" false (·.columns.isSome) (format.list (Column.read format))
        fun draft value => { draft with columns := some value }]
  start := {}
  finish draft := do
    return { name := ← need "name" draft.name, columns := draft.columns.getD [] }

/-- Reads a view. -/
def read (node : ν) : Reading View := (shape format).read format node

end View

namespace Schema

/-- A schema of which some fields are read. -/
structure Draft where
  name : Option String := none
  postScript : Option (Option Path) := none
  tables : Option (List Table) := none
  views : Option (List View) := none

/-- How a schema is read. -/
def shape : RecordShape ν Draft Schema where
  name := "Schema"
  fields :=
    [Format.field "name" true (·.name.isSome) (format.text "a string")
        fun draft value => { draft with name := some value },
      format.optionalField "post_sql_script" (·.postScript.isSome)
        (fun node => do return Path.mk (← format.text "path string" node))
        fun draft value => { draft with postScript := some value },
      Format.field "tables" false (·.tables.isSome) (format.list (Table.read format))
        fun draft value => { draft with tables := some value },
      Format.field "views" false (·.views.isSome) (format.list (View.read format))
        fun draft value => { draft with views := some value }]
  start := {}
  finish draft := do
    return {
      name := ← need "name" draft.name
      postScript := draft.postScript.getD none
      tables := draft.tables.getD []
      views := draft.views.getD [] }

/-- Reads a schema. -/
def read (node : ν) : Reading Schema := (shape format).read format node

end Schema

end Reading

/-- A member that is written only when it is there. -/
def optionalMember {α : Type} (name : String) (write : α → Json) : Option α → List (String × Json)
  | some value => [(name, write value)]
  | none => []

/-- The column as JSON. -/
def Column.toJson (column : Column) : Json :=
  .ofMembers
    ([("name", .ofString column.name), ("type", .ofString column.kind.name),
      ("nullable", .boolean column.nullable)]
    ++ (if column.primaryKey then [("primary_key", .boolean true)] else [])
    ++ optionalMember "length" .ofNat column.length
    ++ optionalMember "sequence" .ofString column.sequence)

/-- The table as JSON. -/
def Table.toJson (table : Table) : Json :=
  .ofMembers
    ([("name", .ofString table.name), ("columns", .ofList (table.columns.map Column.toJson))]
    ++ (if table.sequences.isEmpty then []
      else [("sequences", .ofList (table.sequences.map .ofString))]))

/-- The view as JSON. -/
def View.toJson (view : View) : Json :=
  .ofMembers
    [("name", .ofString view.name), ("columns", .ofList (view.columns.map Column.toJson))]

/-- The schema as JSON. -/
def Schema.toJson (schema : Schema) : Json :=
  .ofMembers
    ([("name", .ofString schema.name)]
    ++ optionalMember "post_sql_script" (fun path => .ofString path.text) schema.postScript
    ++ [("tables", .ofList (schema.tables.map Table.toJson)),
      ("views", .ofList (schema.views.map View.toJson))])

end EntityGen
