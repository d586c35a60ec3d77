import EntityGen.Kind
import EntityGen.Path

/-!
# Schemas

A database as a document describes it: tables and views with their columns, and the sequences that
tables own. Lookup by name ignores the case of ASCII letters and takes the first match.
-/
namespace EntityGen

/-- A column of a table or view. -/
structure Column where
  name : String
  kind : Kind
  nullable : Bool
  primaryKey : Bool
  /-- The greatest length of a text or binary value, a number of 32 bits. -/
  length : Option Nat
  /-- The sequence that feeds the column. -/
  sequence : Option String
  deriving DecidableEq, Repr

/-- A table. -/
structure Table where
  name : String
  columns : List Column
  /-- The sequences that the table declares. -/
  sequences : List String
  deriving DecidableEq, Repr

/-- A view. -/
structure View where
  name : String
  columns : List Column
  deriving DecidableEq, Repr

/-- A database. -/
structure Schema where
  name : String
  /-- A script to run behind the generated one. -/
  postScript : Option Path
  tables : List Table
  views : List View
  deriving DecidableEq, Repr

namespace Table

/-- The declared sequences, then the ones that columns refer to. -/
def sequenceNames (table : Table) : List String :=
  table.sequences ++ table.columns.filterMap (·.sequence)

/-- The first column of a name. -/
def findColumn? (table : Table) (name : String) : Option Column :=
  table.columns.find? fun column => Text.eqIgnoringAsciiCase column.name name

/-- The columns of the primary key. -/
def primaryKey (table : Table) : List Column := table.columns.filter (·.primaryKey)

end Table

namespace Schema

/-- A schema without tables and views. -/
def empty (name : String) : Schema := ⟨name, none, [], []⟩

/-- The schema with a table behind the others. -/
def addTable (schema : Schema) (table : Table) : Schema :=
  { schema with tables := schema.tables ++ [table] }

/-- The schema with a view behind the others. -/
def addView (schema : Schema) (view : View) : Schema :=
  { schema with views := schema.views ++ [view] }

/-- The names of the tables in order. -/
def tableNames (schema : Schema) : List String := schema.tables.map (·.name)

/-- The names of the views in order. -/
def viewNames (schema : Schema) : List String := schema.views.map (·.name)

/-- The place of the first table of a name. -/
def tableIndex? (schema : Schema) (name : String) : Option Nat :=
  schema.tables.findIdx? fun table => Text.eqIgnoringAsciiCase table.name name

/-- The place of the first view of a name. -/
def viewIndex? (schema : Schema) (name : String) : Option Nat :=
  schema.views.findIdx? fun view => Text.eqIgnoringAsciiCase view.name name

/-- The first table of a name. -/
def findTable? (schema : Schema) (name : String) : Option Table :=
  schema.tables.find? fun table => Text.eqIgnoringAsciiCase table.name name

/-- The first view of a name. -/
def findView? (schema : Schema) (name : String) : Option View :=
  schema.views.find? fun view => Text.eqIgnoringAsciiCase view.name name

/-- The schema with the table at a place changed. -/
def modifyTable (schema : Schema) (index : Nat) (change : Table → Table) : Schema :=
  { schema with tables := schema.tables.modify index change }

/-- The number of classes to generate. -/
def entityCount (schema : Schema) : Nat := schema.tables.length + schema.views.length

end Schema

end EntityGen
