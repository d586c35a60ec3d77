import EntityGen.Document.Record
import EntityGen.Number.Shortest

/-!
# JSON nodes

A JSON text as far as it can be read. Where the text stops being JSON the tree ends in a `broken`
node or an open list, so a reader that walks the tree in order meets problems in the order of the
text. `format` says how the nodes are read as records.
-/
namespace EntityGen.Document

/-- A number that a reader can keep. -/
inductive JsonNumber
  | natural (value : Nat)
  /-- The negative of a positive integer. -/
  | negative (magnitude : Nat)
  | floating (negative : Bool) (value : Number.Binary64)
  deriving DecidableEq, Repr

/-- A JSON text as far as it can be read. -/
inductive Json
  | null
  | boolean (value : Bool)
  /-- No value when the number is out of range. -/
  | number (value : Option JsonNumber)
  /-- No value when the text holds half of a surrogate pair. -/
  | string (value : Option String)
  /-- The ending says why the list is not closed, if it is not. -/
  | array (items : List Json) (ending : Option Break)
  | object (members : List (Json × Json)) (ending : Option Break)
  /-- The text breaks off here; `kept` is the cause for a reader that keeps the value and `skipped`
  for one that passes over it. -/
  | broken (kept skipped : Break)
  deriving Inhabited

namespace Json

/-- A text value. -/
def ofString (value : String) : Json := .string (some value)

/-- A number value. -/
def ofNat (value : Nat) : Json := .number (some (.natural value))

/-- A closed list. -/
def ofList (items : List Json) : Json := .array items none

/-- A closed object. -/
def ofMembers (members : List (String × Json)) : Json :=
  .object (members.map fun member => (ofString member.1, member.2)) none

/-- How a number is described when it does not fit. -/
def describeNumber : JsonNumber → Found
  | .natural value => .integer value
  | .negative magnitude => .integer (-magnitude)
  | .floating negative value => .floating (Number.compactText negative value)

/-- A node that stands where something else was expected. -/
def unexpected {α : Type} (expected : String) : Json → Reading α
  | null => Reading.refuse (.invalidType .null expected)
  | boolean value => Reading.refuse (.invalidType (.boolean value) expected)
  | number (some value) => Reading.refuse (.invalidType (describeNumber value) expected)
  | number none => Reading.fail (.text .malformed)
  | string (some value) => Reading.refuse (.invalidType (.text value) expected)
  | string none => Reading.fail (.text .malformed)
  | array _ _ => Reading.refuse (.invalidType .sequence expected)
  | object _ _ => Reading.refuse (.invalidType .mapping expected)
  | broken kept _ => Reading.fail (.text kept)

/-- The parts of a record: an object, or a list in field order. -/
def layout (expected : String) : Json → Reading (Layout Json)
  | object members ending => pure (.members members ending)
  | array items ending => pure (.positional items ending)
  | node => node.unexpected expected

/-- The items of a list. -/
def listing : Json → Reading (Listing Json)
  | array items ending => pure ⟨items, ending⟩
  | node => node.unexpected "a sequence"

/-- A text that is kept. -/
def readText (expected : String) : Json → Reading String
  | string (some value) => pure value
  | node => node.unexpected expected

/-- A truth value. -/
def readFlag : Json → Reading Bool
  | boolean value => pure value
  | node => node.unexpected "a boolean"

/-- A natural number up to a limit. -/
def readCount (expected : String) (limit : Nat) : Json → Reading Nat
  | number (some (.natural value)) =>
    if value ≤ limit then pure value
    else Reading.refuse (.invalidValue (.integer value) expected)
  | number (some (.negative magnitude)) =>
    Reading.refuse (.invalidValue (.integer (-magnitude)) expected)
  | node => node.unexpected expected

/-- Passes over a value, which only has to end. -/
def skip : Json → Reading Unit
  | array _ ending => Reading.unbroken ending
  | object _ ending => Reading.unbroken ending
  | broken _ skipped => Reading.fail (.text skipped)
  | _ => pure ()

/-- The node to be read for a value that may be absent; `null` is absent. -/
def present? : Json → Reading (Option Json)
  | null => pure none
  | node => pure (some node)

/-- Reads a value of any form with all its parts. Lists and objects may nest `levels` deep; deeper
ones count as malformed. -/
def readAny : (levels : Nat) → Json → Reading Unit
  | levels + 1, array items ending => do
    items.forM (readAny levels)
    Reading.unbroken ending
  | levels + 1, object members ending => do
    members.forM fun member => do
      discard (readText "a string" member.1)
      readAny levels member.2
    Reading.unbroken ending
  | 0, array _ _ | 0, object _ _ | _, number none | _, string none => Reading.fail (.text .malformed)
  | _, broken kept _ => Reading.fail (.text kept)
  | _, _ => pure ()

/-- The greatest depth of lists and objects in a kept value, the root counting as one. -/
def maxDepth : Nat := 127

/-- How deep a column's type may nest; the column lies five levels deep itself. -/
def typeLevels : Nat := maxDepth - 5

/-- A column's type: a code or a name, read with all its parts in any case. -/
def readTypeText? (node : Json) : Reading (Option TypeText) := do
  readAny typeLevels node
  match node with
  | string (some name) => pure (some (.name name))
  | number (some (.natural value)) => pure (TypeText.ofInt? value)
  | number (some (.negative magnitude)) => pure (TypeText.ofInt? (-magnitude))
  | _ => pure none

/-- The step to a member. -/
def keyStep : Json → Step
  | string (some name) => .member name
  | _ => .unnamed

/-- How JSON nodes are read. -/
def format : Format Json where
  layout := layout
  listing := listing
  key := readText "a string"
  keyStep := keyStep
  isUntold _ := false
  skip := skip
  present? := present?
  text := readText
  flag := readFlag
  count := readCount
  typeText? := readTypeText?

end Json

/-- A whole text: its root node and whether anything but blanks follows it. -/
structure JsonText where
  root : Json
  trailing : Bool

/-- Reads a whole text; what follows the root is judged last. -/
def JsonText.read {α : Type} (read : Json → Reading α) (doc : JsonText) : Reading α := do
  let value ← read doc.root
  if doc.trailing then Reading.fail (.text .malformed) else pure value

end EntityGen.Document
