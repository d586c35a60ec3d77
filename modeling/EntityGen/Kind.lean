import EntityGen.Text.Class

/-!
# Column kinds

The closed set of kinds a column may have, their names in documents, and the reading of a name.
-/
namespace EntityGen

/-- What kind of value a column holds. -/
inductive Kind
  | unknown | boolean | bit | tinyInt | smallInt | integer | bigInt | real | float | double
  | char | varchar | longVarchar | date | time | timestamp | javaObject | decimal | numeric
  | bigDecimal | bigInteger | blob | clob | money | fraction
  deriving DecidableEq, Repr, Inhabited

namespace Kind

/-- Every kind, in the order in which tables of kinds are printed. -/
def all : List Kind :=
  [unknown, boolean, bit, tinyInt, smallInt, integer, bigInt, real, float, double, char, varchar,
    longVarchar, date, time, timestamp, javaObject, decimal, numeric, bigDecimal, bigInteger, blob,
    clob, money, fraction]

theorem mem_all (kind : Kind) : kind ∈ all := by cases kind <;> decide

/-- The kind's name in a document. -/
def name : Kind → String
  | unknown => "UNKNOWN"
  | boolean => "BOOLEAN"
  | bit => "BIT"
  | tinyInt => "TINYINT"
  | smallInt => "SMALLINT"
  | integer => "INTEGER"
  | bigInt => "BIGINT"
  | real => "REAL"
  | float => "FLOAT"
  | double => "DOUBLE"
  | char => "CHAR"
  | varchar => "VARCHAR"
  | longVarchar => "LONGVARCHAR"
  | date => "DATE"
  | time => "TIME"
  | timestamp => "TIMESTAMP"
  | javaObject => "JAVA_OBJECT"
  | decimal => "DECIMAL"
  | numeric => "NUMERIC"
  | bigDecimal => "BIGDECIMAL"
  | bigInteger => "BIGINTEGER"
  | blob => "BLOB"
  | clob => "CLOB"
  | money => "MONEY"
  | fraction => "FRACTION"

/-- The kind of a name; blanks around it and the case of its letters do not matter. -/
def ofName? (text : String) : Option Kind :=
  all.find? fun kind => Text.eqIgnoringAsciiCase kind.name (Text.trim text)

/-- The kind's place in `all`. -/
def index (kind : Kind) : Nat := all.idxOf kind

/-- Numeric kinds. TINYINT is one although it becomes a truth value; FLOAT is not. -/
def isNumeric : Kind → Bool
  | integer | decimal | double | numeric | real | smallInt | bigInt | tinyInt => true
  | _ => false

/-- Kinds that are recognised but have no generated form. -/
def isUnsupported : Kind → Bool
  | money | fraction => true
  | _ => false

end Kind

end EntityGen
