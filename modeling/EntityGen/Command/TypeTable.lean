import EntityGen.Document.Json.Writer
import EntityGen.Entity

/-!
# The table of types

Every kind with its Java types, as a table in columns or as a document.
-/
namespace EntityGen

/-- A descriptor as a document. -/
def TypeDescriptor.toJson (descriptor : TypeDescriptor) : Document.Json :=
  .ofMembers
    [("primitive_type_name", .ofString descriptor.plainName),
      ("is_primitive", .boolean descriptor.isPrimitive),
      ("is_numeric", .boolean descriptor.isNumeric),
      ("is_immutable", .boolean descriptor.isImmutable),
      ("primitive_runtime", .ofString descriptor.plainRuntime.name),
      ("boxed_runtime", .ofString descriptor.boxedRuntime.name),
      ("boxed_type_name", .ofString descriptor.boxedName)]

namespace Command.TypeTable

/-- A text with blanks behind it up to a width. -/
def padded (width : Nat) (text : String) : String :=
  text ++ String.ofList (List.replicate (width - text.length) ' ')

/-- The widths of the columns. -/
def widths : List Nat := [12, 28, 28, 8, 9]

/-- A line of cells. -/
def line (cells : List String) : String :=
  " ".intercalate (List.zipWith padded widths cells)

/-- A truth value as a cell. -/
def truth (value : Bool) : String := if value then "true" else "false"

/-- The Java types of a kind as cells; the first one says why when there are none. -/
def typeCells (kind : Kind) : String × String :=
  match kind.resolve with
  | .ok descriptor => (descriptor.typeName false, descriptor.typeName true)
  | .error fault => ("<" ++ fault.message ++ ">", "")

/-- The cells of a kind. -/
def cells (kind : Kind) : List String :=
  [kind.name, (typeCells kind).1, (typeCells kind).2, truth kind.isNumeric, truth kind.isImmutable]

/-- The table, line by line. -/
def lines : List String :=
  line ["KIND", "NOT NULL", "NULLABLE", "NUMERIC", "IMMUTABLE"]
    :: Kind.all.map fun kind => line (cells kind)

/-- The kinds with their descriptors. -/
def node : Document.Json :=
  .ofList (Kind.all.map fun kind =>
    .ofList [.ofString kind.name, (kind.descriptor?.map TypeDescriptor.toJson).getD .null])

end Command.TypeTable

end EntityGen
