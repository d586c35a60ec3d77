import EntityGen.Document.Json

/-!
# JSON texts of nodes

The compact form has no blanks; the indented form puts every item on a line of its own, two blanks
further in. A node that is not complete has no text and is left out.
-/
namespace EntityGen.Document.Json

/-- A hexadecimal digit in lower case. -/
def hexDigit (n : Nat) : Char := Nat.digitChar n

/-- The way a character stands inside a JSON text value. -/
def escapedChar (c : Char) : List Char :=
  if c == '"' then ['\\', '"']
  else if c == '\\' then ['\\', '\\']
  else if c == '\n' then ['\\', 'n']
  else if c == '\r' then ['\\', 'r']
  else if c == '\t' then ['\\', 't']
  else if c == '\x08' then ['\\', 'b']
  else if c == '\x0c' then ['\\', 'f']
  else if c.toNat < 0x20 then
    ['\\', 'u', '0', '0', hexDigit (c.toNat / 16), hexDigit (c.toNat % 16)]
  else [c]

/-- A text value between double quotes. -/
def textChars (value : List Char) : List Char := '"' :: (value.flatMap escapedChar ++ ['"'])

/-- The digits of a number. -/
def numberChars : JsonNumber → List Char
  | .natural value => Number.digitsOf value
  | .negative magnitude => '-' :: Number.digitsOf magnitude
  | .floating negative value => (Number.compactText negative value).toList

/-- The text of a node without parts. -/
def leafChars : Json → List Char
  | null => "null".toList
  | boolean value => (if value then "true" else "false").toList
  | number (some value) => numberChars value
  | string (some value) => textChars value.toList
  | _ => []

mutual
/-- The compact text of a node. -/
def compactChars : Json → List Char
  | array items _ => '[' :: (compactItems items ++ [']'])
  | object members _ => '\x7b' :: (compactMembers members ++ ['\x7d'])
  | null => leafChars null
  | boolean value => leafChars (boolean value)
  | number value => leafChars (number value)
  | string value => leafChars (string value)
  | broken kept skipped => leafChars (broken kept skipped)

/-- Items with commas between them. -/
def compactItems : List Json → List Char
  | [] => []
  | [item] => compactChars item
  | item :: items => compactChars item ++ ',' :: compactItems items

/-- Members with commas between them. -/
def compactMembers : List (Json × Json) → List Char
  | [] => []
  | [(key, value)] => compactChars key ++ ':' :: compactChars value
  | (key, value) :: members =>
    compactChars key ++ ':' :: (compactChars value ++ ',' :: compactMembers members)
end

/-- The compact text of a node. -/
def compact (node : Json) : String := String.ofList node.compactChars

/-- A line end and the indentation of a level. -/
def newline (level : Nat) : List Char := '\n' :: List.replicate (2 * level) ' '

mutual
/-- The indented text of a node at a level. -/
def indentedChars (level : Nat) : Json → List Char
  | array [] _ => ['[', ']']
  | array items _ => '[' :: (indentedItems (level + 1) items ++ newline level ++ [']'])
  | object [] _ => ['\x7b', '\x7d']
  | object members _ =>
    '\x7b' :: (indentedMembers (level + 1) members ++ newline level ++ ['\x7d'])
  | null => leafChars null
  | boolean value => leafChars (boolean value)
  | number value => leafChars (number value)
  | string value => leafChars (string value)
  | broken kept skipped => leafChars (broken kept skipped)

/-- Items, each on a line of its own. -/
def indentedItems (level : Nat) : List Json → List Char
  | [] => []
  | [item] => newline level ++ indentedChars level item
  | item :: items => newline level ++ indentedChars level item ++ ',' :: indentedItems level items

/-- Members, each on a line of its own. -/
def indentedMembers (level : Nat) : List (Json × Json) → List Char
  | [] => []
  | [(key, value)] =>
    newline level ++ indentedChars level key ++ ':' :: ' ' :: indentedChars level value
  | (key, value) :: members =>
    newline level ++ indentedChars level key ++ ':' :: ' ' :: indentedChars level value
      ++ ',' :: indentedMembers level members
end

/-- The indented text of a node. -/
def indented (node : Json) : String := String.ofList (node.indentedChars 0)

end EntityGen.Document.Json
