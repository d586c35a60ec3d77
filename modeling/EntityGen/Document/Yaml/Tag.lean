/-!
# Tags

A tag names the type of a value. It is a row of bytes: its escapes spell bytes one by one, and what
they spell need not be the code of a text.
-/
namespace EntityGen.Document.Yaml

/-- The name of a type. -/
structure Tag where
  bytes : List UInt8
  deriving DecidableEq, Repr

namespace Tag

/-- The tag that a text spells. -/
def ofString (text : String) : Tag := ⟨text.toUTF8.toList⟩

/-- What the tags of the core types begin with. -/
def coreLead : Tag := ofString "tag:yaml.org,2002:"

/-- The tag of a core type. -/
def core (name : String) : Tag := ⟨coreLead.bytes ++ (ofString name).bytes⟩

/-- A tag of the document's own begins with an exclamation mark. -/
def isLocal (tag : Tag) : Bool := tag.bytes.head? == some '!'.toUInt8

/-- The bytes are the code of a text. -/
def isText (tag : Tag) : Bool := (String.fromUTF8? ⟨tag.bytes.toArray⟩).isSome

/-- A tag behind what its handle stands for. -/
def behind (lead suffix : Tag) : Tag := ⟨lead.bytes ++ suffix.bytes⟩

end Tag

end EntityGen.Document.Yaml
