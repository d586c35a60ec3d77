import EntityGen.Document.Reading

/-!
# Records

A record is read from the members of a node, in the order of the text. Unknown members are passed
over, a known one may come once, and the ones that must be there are checked at the end. A format may
also lay a record out as a plain list of values in the order of its fields.
-/
namespace EntityGen.Document

/-- The parts of a node that stands for a record, and where the text breaks off behind them. -/
inductive Layout (ν : Type)
  | members (entries : List (ν × ν)) (ending : Option Break)
  | positional (items : List ν) (ending : Option Break)

/-- The items of a node that stands for a list, and where the text breaks off behind them. -/
structure Listing (ν : Type) where
  items : List ν
  ending : Option Break

/-- How the nodes of a format are read. -/
structure Format (ν : Type) where
  /-- The parts of a record; the text names what is expected. -/
  layout : String → ν → Reading (Layout ν)
  /-- The items of a list. -/
  listing : ν → Reading (Listing ν)
  /-- The name of a member, from the node before its value. -/
  key : ν → Reading String
  /-- The step to a member, from the same node. -/
  keyStep : ν → Step
  /-- A problem with the node comes without a line. -/
  isUntold : ν → Bool
  /-- Passes over a value. -/
  skip : ν → Reading Unit
  /-- The node to be read for a value that may be absent, if it is there. -/
  present? : ν → Reading (Option ν)
  text : String → ν → Reading String
  flag : ν → Reading Bool
  /-- A natural number up to a limit; the text names what is expected. -/
  count : String → Nat → ν → Reading Nat
  /-- A column's type, if the value has the form of one. -/
  typeText? : ν → Reading (Option TypeText)

/-- A field of a record that is read into a draft `δ`. -/
structure Field (ν δ : Type) where
  name : String
  /-- A list of values must reach this field. -/
  required : Bool
  isSet : δ → Bool
  read : Step → ν → δ → Reading δ

/-- How a record `ρ` is read: drafted field by field, then finished. -/
structure RecordShape (ν δ ρ : Type) where
  name : String
  fields : List (Field ν δ)
  start : δ
  /-- The record of a draft, or the first field that is missing. -/
  finish : δ → Except String ρ

namespace RecordShape

variable {ν δ ρ : Type} (shape : RecordShape ν δ ρ) (format : Format ν)

/-- Reads one member into a draft. -/
def readMember (draft : δ) (entry : ν × ν) : Reading δ := do
  let name ← format.key entry.1
  match shape.fields.find? (·.name == name) with
  | none => format.skip entry.2; pure draft
  | some field =>
    if field.isSet draft then Reading.refuse (.duplicateField name)
    else field.read (format.keyStep entry.1) entry.2 draft

/-- The expectation named when a list is too short for the record. -/
def lengthText : String :=
  "struct " ++ shape.name ++ " with " ++ toString shape.fields.length ++ " elements"

/-- Reads a list of values field by field. The fields behind its end keep their defaults. -/
def readPositional (ending : Option Break) :
    Nat → List (Field ν δ) → List ν → δ → Reading δ
  | _, [], [], draft => do Reading.unbroken ending; pure draft
  | _, [], _ :: _, _ => Reading.fail (.text .malformed)
  | index, field :: fields, [], draft => do
    Reading.unbroken ending
    if field.required then Reading.refuse (.invalidLength index shape.lengthText)
    else readPositional ending (index + 1) fields [] draft
  | index, field :: fields, item :: items, draft => do
    let draft ← field.read (.item index) item draft
    readPositional ending (index + 1) fields items draft

/-- Reads a record. -/
def read (node : ν) : Reading ρ :=
  Reading.settle (format.isUntold node) do
    let draft ← match ← format.layout ("struct " ++ shape.name) node with
      | .members entries ending => do
        let draft ← entries.foldlM (shape.readMember format) shape.start
        Reading.unbroken ending
        pure draft
      | .positional items ending => shape.readPositional ending 0 shape.fields items shape.start
    match shape.finish draft with
    | .ok value => pure value
    | .error name => Reading.refuse (.missingField name)

end RecordShape

namespace Format

variable {ν : Type} (format : Format ν)

/-- Reads the items of a list one by one, from the given index on. -/
def readItems {α : Type} (read : ν → Reading α) : Nat → List ν → Reading (List α)
  | _, [] => pure []
  | index, item :: items => do
    let value ← (read item).within (.item index)
    let values ← readItems read (index + 1) items
    pure (value :: values)

/-- Reads a list. -/
def list {α : Type} (read : ν → Reading α) (node : ν) : Reading (List α) := do
  let listing ← format.listing node
  let values ← readItems read 0 listing.items
  Reading.unbroken listing.ending
  pure values

/-- A field whose value is read by `read` and put into the draft by `set`. -/
def field {δ α : Type} (name : String) (required : Bool) (isSet : δ → Bool)
    (read : ν → Reading α) (set : δ → α → δ) : Field ν δ where
  name
  required
  isSet
  read step node draft := do pure (set draft (← (read node).within step))

/-- A field whose value may be absent. -/
def optionalField {δ α : Type} (name : String) (isSet : δ → Bool)
    (read : ν → Reading α) (set : δ → Option α → δ) : Field ν δ where
  name
  required := false
  isSet
  read step node draft := do
    match ← format.present? node with
    | none => pure (set draft none)
    | some value => pure (set draft (some (← (read value).within step)))

end Format

end EntityGen.Document
