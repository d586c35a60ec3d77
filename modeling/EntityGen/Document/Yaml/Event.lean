import EntityGen.Document.Yaml.Token

/-!
# Events

The grammar of YAML over tokens. A text is a sequence of events: values, repeats of earlier values,
and the starts and ends of lists and mappings. Events are kept up to the place where a text stops
being well formed.
-/
namespace EntityGen.Document.Yaml

/-- What is known of a value besides its content. -/
structure Traits where
  tag : Option Tag
  /-- Nothing stands before the value in its text. -/
  isFirst : Bool
  deriving DecidableEq, Repr

/-- The anchor and the traits of a value. -/
structure Properties extends Traits where
  anchor : Option String
  deriving DecidableEq, Repr

/-- A value without anchor and tag somewhere in a text. -/
def Properties.none : Properties := ⟨⟨Option.none, false⟩, Option.none⟩

/-- An event of a text. -/
inductive Event
  /-- A repeat of the value with an anchor. -/
  | reference (name : String)
  | scalar (properties : Properties) (text : String) (style : Style)
  | sequenceStart (properties : Properties)
  | sequenceEnd
  | mappingStart (properties : Properties)
  | mappingEnd
  deriving DecidableEq, Repr

/-- A text while its events are read. -/
structure EventState where
  scanner : Scanner
  /-- What tag handles stand for. -/
  handles : List (String × Tag)
  /-- The events read, the last one first. -/
  events : List Event

/-- A step of the grammar. -/
abbrev Grammar (α : Type) := ExceptT Break (StateM EventState) α

namespace Grammar

/-- The text is not well formed here. -/
def malformed {α : Type} : Grammar α := throw .malformed

/-- The next token, and whether nothing stands before it. -/
def peekPlaced : Grammar PlacedToken := do
  let state ← get
  match state.scanner.peek with
  | .error cause => throw cause
  | .ok (token, scanner) => set { state with scanner }; return token

/-- The next token. -/
def peek : Grammar Token := do return (← peekPlaced).token

/-- Goes past the next token. -/
def advance : Grammar Unit :=
  modify fun state => { state with scanner := state.scanner.advance }

/-- Gives an event. -/
def emit (event : Event) : Grammar Unit :=
  modify fun state => { state with events := event :: state.events }

/-- Gives a value that is not written. -/
def emitEmpty : Grammar Unit := emit (.scalar .none "" .plain)

/-- The meaning of a tag. -/
def resolveTag (handle : String) (suffix : Tag) : Grammar Tag := do
  if handle.isEmpty then return suffix
  match (← get).handles.lookup handle with
  | some lead => return lead.behind suffix
  | none => malformed

/-- Reads the anchor and the tag in front of a value, in either order. -/
def properties : Grammar Properties := do
  let ⟨token, isFirst⟩ ← peekPlaced
  match token with
  | .anchor name =>
    advance
    match ← peek with
    | .tag handle suffix =>
      advance
      return ⟨⟨some (← resolveTag handle suffix), isFirst⟩, some name⟩
    | _ => return ⟨⟨none, isFirst⟩, some name⟩
  | .tag handle suffix =>
    advance
    match ← peek with
    | .anchor name =>
      advance
      return ⟨⟨some (← resolveTag handle suffix), isFirst⟩, some name⟩
    | _ => return ⟨⟨some (← resolveTag handle suffix), isFirst⟩, none⟩
  | _ => return ⟨⟨none, isFirst⟩, none⟩

/-- A token that ends an item of a list without indentation of its own. -/
def endsIndentlessItem : Token → Bool
  | .blockEntry | .key | .value | .blockEnd => true
  | _ => false

/-- A token that ends the key or value of a block mapping. -/
def endsBlockPart : Token → Bool
  | .key | .value | .blockEnd => true
  | _ => false

/-- A token that ends the value of a mapping between brackets. -/
def endsFlowPart : Token → Bool
  | .flowEntry | .flowMappingEnd => true
  | _ => false

mutual
/-- A value. `block` allows block structures, and `indentless` a list whose marks stand in the column
of the surrounding mapping. -/
def node : (fuel : Nat) → (block indentless : Bool) → Grammar Unit
  | 0, _, _ => malformed
  | fuel + 1, block, indentless => do
    match ← peek with
    | .reference name => advance; emit (.reference name)
    | _ =>
      let properties ← properties
      match ← peek with
      | .blockEntry =>
        if indentless then
          emit (.sequenceStart properties)
          indentlessItems fuel
        else emptyOr properties
      | .scalar text style => advance; emit (.scalar properties text style)
      | .flowSequenceStart =>
        advance
        emit (.sequenceStart properties)
        flowItems fuel true
      | .flowMappingStart =>
        advance
        emit (.mappingStart properties)
        flowPairs fuel true
      | .blockSequenceStart =>
        if block then
          advance
          emit (.sequenceStart properties)
          blockItems fuel
        else emptyOr properties
      | .blockMappingStart =>
        if block then
          advance
          emit (.mappingStart properties)
          blockPairs fuel
        else emptyOr properties
      | _ => emptyOr properties
where
  /-- A value that is not written needs at least an anchor or a tag. -/
  emptyOr (properties : Properties) : Grammar Unit :=
    if properties.anchor.isSome || properties.tag.isSome then emit (.scalar properties "" .plain)
    else malformed

/-- The items of a block list. -/
def blockItems : (fuel : Nat) → Grammar Unit
  | 0 => malformed
  | fuel + 1 => do
    match ← peek with
    | .blockEntry =>
      advance
      match ← peek with
      | .blockEntry | .blockEnd => emitEmpty
      | _ => node fuel true false
      blockItems fuel
    | .blockEnd => advance; emit .sequenceEnd
    | _ => malformed

/-- The items of a list in the column of the surrounding mapping. -/
def indentlessItems : (fuel : Nat) → Grammar Unit
  | 0 => malformed
  | fuel + 1 => do
    match ← peek with
    | .blockEntry =>
      advance
      if endsIndentlessItem (← peek) then emitEmpty else node fuel true false
      indentlessItems fuel
    | _ => emit .sequenceEnd

/-- The pairs of a block mapping. -/
def blockPairs : (fuel : Nat) → Grammar Unit
  | 0 => malformed
  | fuel + 1 => do
    match ← peek with
    | .key =>
      advance
      if endsBlockPart (← peek) then emitEmpty else node fuel true true
      match ← peek with
      | .value =>
        advance
        if endsBlockPart (← peek) then emitEmpty else node fuel true true
      | _ => emitEmpty
      blockPairs fuel
    | .blockEnd => advance; emit .mappingEnd
    | _ => malformed

/-- The items of a list between brackets. -/
def flowItems : (fuel : Nat) → (first : Bool) → Grammar Unit
  | 0, _ => malformed
  | fuel + 1, first => do
    match first, ← peek with
    | _, .flowSequenceEnd => pure ()
    | true, _ => pure ()
    | false, .flowEntry => advance
    | false, _ => malformed
    match ← peek with
    | .flowSequenceEnd => advance; emit .sequenceEnd
    | .key =>
      advance
      emit (.mappingStart .none)
      flowSinglePair fuel
      emit .mappingEnd
      flowItems fuel false
    | _ =>
      node fuel false false
      flowItems fuel false

/-- The pair of a mapping that is an item of a list between brackets, behind the mark of its key. -/
def flowSinglePair : (fuel : Nat) → Grammar Unit
  | 0 => malformed
  | fuel + 1 => do
    match ← peek with
    | .value | .flowEntry | .flowSequenceEnd => advance; emitEmpty
    | _ => node fuel false false
    match ← peek with
    | .value =>
      advance
      match ← peek with
      | .flowEntry | .flowSequenceEnd => emitEmpty
      | _ => node fuel false false
    | _ => emitEmpty

/-- The pairs of a mapping between brackets. -/
def flowPairs : (fuel : Nat) → (first : Bool) → Grammar Unit
  | 0, _ => malformed
  | fuel + 1, first => do
    match first, ← peek with
    | _, .flowMappingEnd => pure ()
    | true, _ => pure ()
    | false, .flowEntry => advance
    | false, _ => malformed
    match ← peek with
    | .flowMappingEnd => advance; emit .mappingEnd
    | .key =>
      advance
      let token ← peek
      if token == .value || endsFlowPart token then emitEmpty else node fuel false false
      match ← peek with
      | .value =>
        advance
        if endsFlowPart (← peek) then emitEmpty else node fuel false false
      | _ => emitEmpty
      flowPairs fuel false
    | _ =>
      node fuel false false
      emitEmpty
      flowPairs fuel false
end

/-- The handles that every text starts with. -/
def defaultHandles : List (String × Tag) := [("!", .ofString "!"), ("!!", .coreLead)]

/-- Reads directives, each at most once. -/
def directives : (fuel : Nat) → (versioned : Bool) → Grammar Unit
  | 0, _ => malformed
  | fuel + 1, versioned => do
    match ← peek with
    | .versionDirective major minor =>
      if versioned || major != 1 || (minor != 1 && minor != 2) then malformed
      advance
      directives fuel true
    | .tagDirective handle lead =>
      if ((← get).handles.lookup handle).isSome then malformed
      modify fun state => { state with handles := (handle, lead) :: state.handles }
      advance
      directives fuel versioned
    | _ => pure ()

/-- Goes past markers that end a document. -/
def skipDocumentEnds : (fuel : Nat) → Grammar Unit
  | 0 => malformed
  | fuel + 1 => do
    match ← peek with
    | .documentEnd => advance; skipDocumentEnds fuel
    | _ => pure ()

/-- The value of a document behind its marker. -/
def content (fuel : Nat) : Grammar Unit := do
  match ← peek with
  | .versionDirective .. | .tagDirective .. | .documentStart | .documentEnd | .streamEnd => emitEmpty
  | _ => node fuel true false

/-- A text that holds one document, or none. -/
def stream (fuel : Nat) : Grammar Unit := do
  match ← peek with
  | .streamEnd => pure ()
  | .versionDirective .. | .tagDirective .. | .documentStart =>
    directives fuel false
    modify fun state => { state with handles := state.handles ++ defaultHandles }
    match ← peek with
    | .documentStart => advance; content fuel; close
    | _ => malformed
  | _ =>
    modify fun state => { state with handles := defaultHandles }
    node fuel true false
    close
where
  /-- Nothing follows the document but markers that end it. -/
  close : Grammar Unit := do
    skipDocumentEnds fuel
    match ← peek with
    | .streamEnd => pure ()
    | _ => malformed

end Grammar

/-- The events of a text, and whether all of it is well formed. -/
structure EventText where
  events : List Event
  wellFormed : Bool

/-- The events of a text as far as it is well formed. -/
def EventText.ofString (text : String) : EventText :=
  let chars := text.toList
  if !chars.all isAllowed then ⟨[], false⟩
  else
    let fuel := 8 * chars.length + 16
    let (result, state) := (Grammar.stream fuel).run.run ⟨.start chars, [], []⟩
    ⟨state.events.reverse, match result with
      | .ok () => true
      | .error _ => false⟩

end EntityGen.Document.Yaml
