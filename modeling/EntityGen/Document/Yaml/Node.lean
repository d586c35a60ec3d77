import EntityGen.Document.Record
import EntityGen.Document.Yaml.Event
import EntityGen.Document.Yaml.Plain

/-!
# YAML nodes

The tree of a text, as far as the text is well formed. A repeat stays a node of its own that names its
anchor by number, so that a value may repeat a list it is part of; following repeats is counted and
limited. `format` says how the nodes are read as records.
-/
namespace EntityGen.Document.Yaml

/-- A text as far as it is well formed. -/
inductive Node
  | scalar (traits : Traits) (text : String) (style : Style)
  | sequence (traits : Traits) (items : List Node)
  | mapping (traits : Traits) (entries : List (Node × Node))
  /-- A repeat of the node of an anchor. -/
  | reference (anchor : Nat)
  /-- The text stops being well formed here. -/
  | broken

/-- The anchors that are in force, each with its number. -/
abbrev Anchors := List (String × Nat)

namespace Anchors

/-- Gives an anchor the number of the anchors in force, whether it is one of them or not. -/
def declare (anchors : Anchors) (name : String) : Anchors :=
  (name, anchors.length) :: anchors.filter (·.1 != name)

end Anchors

/-- An event whose anchors and repeats are numbered. -/
structure LinkedEvent where
  event : Event
  /-- The number of the anchor that the event declares or repeats. -/
  anchor : Option Nat

/-- The anchor that an event declares. -/
def Event.declares? : Event → Option String
  | .scalar properties _ _ => properties.anchor
  | .sequenceStart properties => properties.anchor
  | .mappingStart properties => properties.anchor
  | _ => none

/-- Numbers anchors and repeats, up to a repeat of an anchor that is not in force. The flag says
whether there is none. -/
def link (anchors : Anchors) : List Event → List LinkedEvent × Bool
  | [] => ([], true)
  | event :: rest =>
    match event with
    | .reference name =>
      match anchors.lookup name with
      | none => ([], false)
      | some number =>
        let (linked, complete) := link anchors rest
        (⟨event, some number⟩ :: linked, complete)
    | _ =>
      let number := event.declares?.map fun _ => anchors.length
      let anchors := match event.declares? with
        | some name => anchors.declare name
        | none => anchors
      let (linked, complete) := link anchors rest
      (⟨event, number⟩ :: linked, complete)

mutual
/-- The node that events begin with, and the events behind it. -/
def Node.ofEvents : (fuel : Nat) → List LinkedEvent → Node × List LinkedEvent
  | 0, _ => (.broken, [])
  | _, [] => (.broken, [])
  | fuel + 1, ⟨event, anchor⟩ :: rest =>
    match event with
    | .reference _ => (.reference (anchor.getD 0), rest)
    | .scalar properties text style => (.scalar properties.toTraits text style, rest)
    | .sequenceStart properties =>
      let (items, rest) := itemsOfEvents fuel rest
      (.sequence properties.toTraits items, rest)
    | .mappingStart properties =>
      let (entries, rest) := entriesOfEvents fuel rest
      (.mapping properties.toTraits entries, rest)
    | .sequenceEnd | .mappingEnd => (.broken, [])

/-- The items up to the end of a list, and the events behind it. -/
def itemsOfEvents : (fuel : Nat) → List LinkedEvent → List Node × List LinkedEvent
  | 0, _ => ([.broken], [])
  | fuel + 1, events =>
    match events with
    | [] => ([.broken], [])
    | ⟨.sequenceEnd, _⟩ :: rest => ([], rest)
    | events =>
      let (item, rest) := Node.ofEvents fuel events
      let (items, rest) := itemsOfEvents fuel rest
      (item :: items, rest)

/-- The entries up to the end of a mapping, and the events behind it. -/
def entriesOfEvents : (fuel : Nat) → List LinkedEvent → List (Node × Node) × List LinkedEvent
  | 0, _ => ([(.broken, .broken)], [])
  | fuel + 1, events =>
    match events with
    | [] => ([(.broken, .broken)], [])
    | ⟨.mappingEnd, _⟩ :: rest => ([], rest)
    | events =>
      let (key, rest) := Node.ofEvents fuel events
      let (value, rest) := Node.ofEvents fuel rest
      let (entries, rest) := entriesOfEvents fuel rest
      ((key, value) :: entries, rest)
end

/-- The node that linked events begin with. -/
def Node.first (events : List LinkedEvent) : Node :=
  (Node.ofEvents (2 * events.length + 2) events).1

/-- The nodes of anchors by number; a later declaration of a number comes first. -/
def anchorNodes : List LinkedEvent → List (Nat × Node)
  | [] => []
  | event :: rest =>
    match event.event, event.anchor with
    | .reference _, _ | _, none => anchorNodes rest
    | _, some number => anchorNodes rest ++ [(number, Node.first (event :: rest))]

/-- A text: its root, the nodes of its anchors, its size in events, and whether all of it is well
formed. -/
structure YamlText where
  root : Node
  anchors : List (Nat × Node)
  size : Nat
  wellFormed : Bool

/-- An empty plain scalar, which counts as an empty list or record too. -/
def Node.empty (isFirst : Bool) : Node := .scalar ⟨none, isFirst⟩ "" .plain

/-- Reads a text into its tree. -/
def YamlText.ofString (text : String) : YamlText :=
  let events := EventText.ofString text
  let (linked, complete) := link [] events.events
  let wellFormed := events.wellFormed && complete
  ⟨if linked.isEmpty && wellFormed then .empty text.isEmpty else Node.first linked,
    anchorNodes linked, max linked.length 1, wellFormed⟩

namespace Node

/-- How often a text may follow repeats, for each of its events. -/
def repeatsPerEvent : Nat := 100

/-- The node itself, or the one it repeats. -/
def target (doc : YamlText) : Node → Node
  | reference anchor => (doc.anchors.lookup anchor).getD .broken
  | node => node

/-- The target of a node. A repeat is counted, and it may be one too many. -/
def follow (doc : YamlText) (node : Node) : Reading Node := do
  match node with
  | reference _ => do
    let repeats := (← get).repeats + 1
    modify fun notes => { notes with repeats }
    if doc.size * repeatsPerEvent < repeats then
      Reading.fail (.data [] .tooManyRepeats .untold)
    else pure (node.target doc)
  | _ => pure node

/-- A problem with the first thing of a text comes without a line. -/
def isUntold : Node → Bool
  | scalar traits _ _ | sequence traits _ | mapping traits _ => traits.isFirst
  | reference _ | broken => false

/-- Reads the node itself, or the one it repeats, by `read`. -/
def readBy {α : Type} (doc : YamlText) (node : Node) (read : Node → Reading α) : Reading α := do
  let node ← node.follow doc
  Reading.settle node.isUntold (read node)

/-- A node that stands where something else was expected. -/
def unexpected {α : Type} (expected : String) : Node → Reading α
  | scalar traits text style =>
    match scalarValue traits.tag text style with
    | .ok value => Reading.refuse (.invalidType value.found expected)
    | .error problem => Reading.refuse problem
  | sequence _ _ => Reading.refuse (.invalidType .sequence expected)
  | mapping _ _ => Reading.refuse (.invalidType .mapping expected)
  | reference _ | broken => Reading.fail (.text .malformed)

/-- An empty plain scalar. -/
def isEmpty : Node → Bool
  | scalar _ text style => text.isEmpty && style == .plain
  | _ => false

/-- The parts of a record. -/
def layout (doc : YamlText) (expected : String) (node : Node) : Reading (Layout Node) :=
  node.readBy doc fun node =>
    match node with
    | mapping _ entries => pure (.members entries none)
    | _ => if node.isEmpty then pure (.members [] none) else node.unexpected expected

/-- The items of a list. -/
def listing (doc : YamlText) (node : Node) : Reading (Listing Node) :=
  node.readBy doc fun node =>
    match node with
    | sequence _ items => pure ⟨items, none⟩
    | _ => if node.isEmpty then pure ⟨[], none⟩ else node.unexpected "a sequence"

/-- The text of any scalar. -/
def readText (doc : YamlText) (expected : String) (node : Node) : Reading String :=
  node.readBy doc fun node =>
    match node with
    | scalar _ text _ => pure text
    | node => node.unexpected expected

/-- The scalar may be read as a value of a core type: it is plain, or a block with the type's tag. -/
def isLiteralOf (tagName : String) (tag : Option Tag) (style : Style) : Bool :=
  style == .plain || (style == .literal && tag == some (.core tagName))

/-- A truth value. -/
def readFlag (doc : YamlText) (node : Node) : Reading Bool :=
  node.readBy doc fun node =>
    match node with
    | scalar traits text style =>
      match if isLiteralOf "bool" traits.tag style then Plain.boolean? text else none with
      | some value => pure value
      | none => node.unexpected "a boolean"
    | _ => node.unexpected "a boolean"

/-- A natural number up to a limit. -/
def readCount (doc : YamlText) (expected : String) (limit : Nat) (node : Node) : Reading Nat :=
  node.readBy doc fun node =>
    match node with
    | scalar traits text style =>
      let value? := if isLiteralOf "int" traits.tag style then
        Plain.natural? (UInt64.size - 1) text.toList else none
      match value? with
      | some value =>
        if value ≤ limit then pure value
        else Reading.refuse (.invalidValue (.integer value) expected)
      | none => node.unexpected expected
    | _ => node.unexpected expected

/-- The node to be read for a value that may be absent. A problem belongs to the node around it. -/
def present? (doc : YamlText) (node : Node) : Reading (Option Node) := do
  let node ← node.follow doc
  match node with
  | scalar traits text .plain =>
    match traits.tag with
    | some tag =>
      if tag == .core "null" then
        if Plain.isNull text then pure none
        else Reading.refuse (.invalidValue (.text text) "null")
      else pure (some node)
    | none => pure (if text.isEmpty || Plain.isNull text then none else some node)
  | broken => Reading.fail (.text .malformed)
  | _ => pure (some node)

mutual
/-- Whether a node ends where the text stops being well formed. -/
def isBroken : Node → Bool
  | broken => true
  | sequence _ items => endsBroken items
  | mapping _ entries => endsInBrokenEntry entries
  | scalar .. | reference _ => false

/-- Whether the last of a list's items ends where the text does. -/
def endsBroken : List Node → Bool
  | [] => false
  | [item] => isBroken item
  | _ :: rest => endsBroken rest

/-- Whether the last of a mapping's entries ends where the text does. -/
def endsInBrokenEntry : List (Node × Node) → Bool
  | [] => false
  | [entry] => isBrokenEntry entry
  | _ :: rest => endsInBrokenEntry rest

/-- Whether an entry's value ends where the text does. -/
def isBrokenEntry : Node × Node → Bool
  | (_, value) => isBroken value
end

/-- Passes over a value. -/
def skip (node : Node) : Reading Unit :=
  if node.isBroken then Reading.fail (.text .malformed) else pure ()

/-- The step to a member; a key that is not written as a scalar gives no name. -/
def keyStep : Node → Step
  | scalar _ text _ => .member text
  | _ => .unnamed

/-- The value has a tag of the document's own that is a text. -/
def hasOwnTag (traits : Traits) : Bool := traits.tag.any fun tag => tag.isLocal && tag.isText

/-- The form of a column's type that a scalar has. -/
def typeTextOf (value : Value) : Reading (Option TypeText) :=
  match value with
  | .text name => pure (some (.name name))
  | .integer value => pure (TypeText.ofInt? value)
  | .wideInteger value => Reading.refuse (.invalidType (.wideInteger value) "any value")
  | _ => pure none

/-- Reads a value of any form with all its parts. Lists and mappings may nest `levels` deep. -/
def readAny (doc : YamlText) : (levels : Nat) → Node → Reading (Option TypeText)
  | levels, node => node.readBy doc fun node => do
    match node, levels with
    | scalar traits text style, _ =>
      if hasOwnTag traits then Reading.refuse .taggedTypeText
      else match scalarValue traits.tag text style with
        | .ok value => typeTextOf value
        | .error problem => Reading.refuse problem
    | sequence traits items, levels =>
      if hasOwnTag traits then Reading.refuse .taggedTypeText
      else match levels with
        | 0 => Reading.refuse .tooDeep
        | levels + 1 =>
          items.zipIdx.forM fun (item, index) =>
            Reading.within (.item index) (discard (readAny doc levels item))
          pure none
    | mapping traits entries, levels =>
      if hasOwnTag traits then Reading.refuse .taggedTypeText
      else match levels with
        | 0 => Reading.refuse .tooDeep
        | levels + 1 =>
          entries.forM fun (key, value) => do
            discard (readAny doc levels key)
            Reading.within key.keyStep (discard (readAny doc levels value))
          pure none
    | reference _, _ | broken, _ => Reading.fail (.text .malformed)

/-- How deep lists and mappings may nest in a value that is kept. -/
def maxDepth : Nat := 128

/-- A column's type; the column lies five levels deep itself. -/
def readTypeText? (doc : YamlText) (node : Node) : Reading (Option TypeText) :=
  node.readAny doc (maxDepth - 5)

end Node

/-- How the nodes of a text are read. -/
def YamlText.format (doc : YamlText) : Format Node where
  layout := Node.layout doc
  listing := Node.listing doc
  key := Node.readText doc "field identifier"
  keyStep := Node.keyStep
  isUntold node := (node.target doc).isUntold
  skip := Node.skip
  present? := Node.present? doc
  text := Node.readText doc
  flag := Node.readFlag doc
  count := Node.readCount doc
  typeText? := Node.readTypeText? doc

/-- Reads a whole text. That the text is well formed is judged first, though what is read before it
breaks off leaves its warnings. -/
def YamlText.read {α : Type} (read : Format Node → Node → Reading α) (doc : YamlText) :
    Except Failure α × List Warning :=
  let (result, warnings) := (read doc.format doc.root).outcome
  (if doc.wellFormed then result else .error (.text .malformed), warnings)

end EntityGen.Document.Yaml
