/-!
# Why a document is refused

A document is refused because its text is not well formed, because it ends too early, or because it
does not fit the record that is read from it. The last case says where and how.
-/
namespace EntityGen.Document

/-- Where a text stops being a document. -/
inductive Break
  | malformed
  | truncated
  deriving DecidableEq, Repr

/-- A step from a node to one of its parts. -/
inductive Step
  | member (name : String)
  | unnamed
  | item (index : Nat)
  deriving DecidableEq, Repr

/-- What stands where something else was expected. -/
inductive Found
  | null
  | unit
  | boolean (value : Bool)
  | integer (value : Int)
  /-- An integer beyond 64 bits. -/
  | wideInteger (value : Int)
  | floating (shown : String)
  | text (shown : String)
  | sequence
  | mapping
  deriving DecidableEq, Repr

/-- How a node fails to fit. -/
inductive Problem
  | missingField (name : String)
  | duplicateField (name : String)
  | invalidType (found : Found) (expected : String)
  | invalidValue (found : Found) (expected : String)
  | invalidLength (length : Nat) (expected : String)
  /-- A column's type is neither a code nor a name. -/
  | noTypeText
  /-- A column's type carries a tag of its own. -/
  | taggedTypeText
  | tooDeep
  | tooManyRepeats
  deriving DecidableEq, Repr

/-- Whether a report of a problem can say on which line it lies. -/
inductive Place
  /-- Left to the node that holds the problem. -/
  | pending
  /-- No line is told: the problem is not with one node, or its node has no line to tell. -/
  | untold
  | told
  deriving DecidableEq, Repr

/-- Why a reading failed. -/
inductive Failure
  | text (cause : Break)
  | data (path : List Step) (problem : Problem) (place : Place)
  deriving DecidableEq, Repr

namespace Found

/-- How a message names what was found; `quote` shows a text. -/
def describe (quote : String → String) : Found → String
  | null => "null"
  | unit => "unit value"
  | boolean value => "boolean \x60" ++ (if value then "true" else "false") ++ "\x60"
  | integer value => "integer \x60" ++ toString value ++ "\x60"
  | wideInteger value =>
    "integer \x60" ++ toString value ++ "\x60 as " ++ (if value < 0 then "i128" else "u128")
  | floating shown => "floating point \x60" ++ shown ++ "\x60"
  | text shown => "string " ++ quote shown
  | sequence => "sequence"
  | mapping => "map"

end Found

namespace Problem

/-- The text of a problem. -/
def message (quote : String → String) : Problem → String
  | missingField name => "missing field \x60" ++ name ++ "\x60"
  | duplicateField name => "duplicate field \x60" ++ name ++ "\x60"
  | invalidType found expected =>
    "invalid type: " ++ found.describe quote ++ ", expected " ++ expected
  | invalidValue found expected =>
    "invalid value: " ++ found.describe quote ++ ", expected " ++ expected
  | invalidLength length expected =>
    "invalid length " ++ toString length ++ ", expected " ++ expected
  | noTypeText => "data did not match any variant of untagged enum RawColumnType"
  | taggedTypeText => "untagged and internally tagged enums do not support enum input"
  | tooDeep => "recursion limit exceeded"
  | tooManyRepeats => "repetition limit exceeded"

/-- Limits are reported without a path. -/
def showsPath : Problem → Bool
  | tooDeep | tooManyRepeats => false
  | _ => true

end Problem

/-- A path of steps, as in `tables[0].columns[1].length`. -/
def showPath : List Step → String
  | [] => ""
  | step :: rest => go (first step) rest
where
  /-- The text of the first step. -/
  first : Step → String
    | .member name => name
    | .unnamed => "?"
    | .item index => ".[" ++ toString index ++ "]"
  /-- The text of a path whose beginning is written. -/
  go (written : String) : List Step → String
    | [] => written
    | .member name :: rest => go (written ++ "." ++ name) rest
    | .unnamed :: rest => go (written ++ ".?") rest
    | .item index :: rest => go (written ++ "[" ++ toString index ++ "]") rest

namespace Failure

/-- The text of a failure; `showsPath` says whether the path is written before the problem. -/
def message (quote : String → String) (showsPath : Bool) : Failure → String
  | text .malformed => "the text is not well formed"
  | text .truncated => "the text ends too early"
  | data path problem _ =>
    if showsPath && !path.isEmpty && problem.showsPath then
      showPath path ++ ": " ++ problem.message quote
    else problem.message quote

/-- The failure of a part, seen from the node that holds it. -/
def within (step : Step) : Failure → Failure
  | text cause => text cause
  | data path problem place => data (step :: path) problem place

/-- The failure, its place settled if that is pending. `untold` says whether the node that holds the
problem has no line to tell. -/
def settle (untold : Bool) : Failure → Failure
  | data path problem .pending => data path problem (if untold then .untold else .told)
  | failure => failure

/-- A report of the failure says on which line it lies. -/
def tellsLine : Failure → Bool
  | data _ _ .untold => false
  | _ => true

end Failure

end EntityGen.Document
