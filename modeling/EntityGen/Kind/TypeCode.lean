import EntityGen.Kind

/-!
# Type codes

Documents may give a column's kind as a numeric code of the database driver.
-/
namespace EntityGen

/-- The codes that are understood, each with its kind. -/
def Kind.typeCodes : List (Int × Kind) :=
  [(-7, .bit), (-6, .tinyInt), (5, .smallInt), (4, .integer), (-5, .bigInt), (7, .real),
    (8, .double), (1, .char), (12, .varchar), (91, .date), (92, .time), (93, .timestamp),
    (2000, .javaObject), (3, .decimal), (2, .numeric), (2004, .blob), (2005, .clob)]

/-- The kind of a type code, if the code is understood. -/
def Kind.ofTypeCode? (code : Int) : Option Kind := Kind.typeCodes.lookup code

/-- How a document gives a column's kind. -/
inductive TypeText
  | code (value : Int)
  | name (text : String)
  deriving DecidableEq, Repr

/-- What is noted when a column's type is not understood. -/
inductive Warning
  | unknownTypeCode (value : Int)
  | unknownTypeName (text : String)
  deriving DecidableEq, Repr

/-- The line that is logged for a warning. -/
def Warning.message : Warning → String
  | unknownTypeCode value => "Unknown JDBC type code specified: [" ++ toString value ++ "]"
  | unknownTypeName text => "Unknown column type specified: [" ++ text ++ "]"

namespace TypeText

/-- The code that an integer is, if it fits 32 bits with a sign. -/
def ofInt? (value : Int) : Option TypeText :=
  if -2147483648 ≤ value && value ≤ 2147483647 then some (.code value) else none

/-- The kind that a type text names, if any. -/
def kind? : TypeText → Option Kind
  | code value => Kind.ofTypeCode? value
  | name text => Kind.ofName? text

/-- The warning for a type text that names no kind. -/
def unknown : TypeText → Warning
  | code value => .unknownTypeCode value
  | name text => .unknownTypeName text

/-- The kind of a type text. A text that names no kind counts as `unknown` and is noted. -/
def classify (text : TypeText) : Kind × Option Warning :=
  match text.kind? with
  | some kind => (kind, none)
  | none => (.unknown, some text.unknown)

end TypeText

end EntityGen
