import EntityGen.Text.Casing.Table
import EntityGen.Text.Class

/-!
# Case mappings

`upper` and `lower` map one character, which may become several. `lowercase` maps a text, where a
sigma that ends a word takes its final form.
-/
namespace EntityGen.Text

namespace Casing

/-- The image of a code point under the first run that covers it. -/
def alongRuns (code : Nat) : List Run → Option Nat
  | [] => none
  | r :: rest =>
    if r.first ≤ code && code ≤ r.last && (code - r.first) % r.stride == 0 then
      some (r.image + (code - r.first))
    else alongRuns code rest

/-- The image of a character by a table of expansions and a table of runs. -/
def image (expansions : List (Nat × List Nat)) (runs : List Run) (c : Char) : List Char :=
  match expansions.lookup c.toNat with
  | some codes => codes.map Char.ofNat
  | none => match alongRuns c.toNat runs with
    | some code => [Char.ofNat code]
    | none => [c]

end Casing

/-- The upper-case form of an ASCII letter; any other character is kept. -/
def asciiUpper (c : Char) : Char := if isAsciiLower c then Char.ofNat (c.toNat - 32) else c

/-- The upper-case form of a character. -/
def upper (c : Char) : List Char :=
  if c.toNat < 128 then [asciiUpper c] else Casing.image Casing.upperExpansions Casing.upperRuns c

/-- The lower-case form of a character on its own. -/
def lower (c : Char) : List Char :=
  if c.toNat < 128 then [asciiLower c] else Casing.image Casing.lowerExpansions Casing.lowerRuns c

/-- Whether the first character that casing does not look past is cased. -/
def meetsCased (text : List Char) : Bool :=
  match text.dropWhile isCaseIgnorable with
  | [] => false
  | c :: _ => isCased c

/-- Lower case within a text, given the reversed text before it. A capital sigma becomes final when a
cased character stands before it and none after it. -/
def lowercaseFrom (before : List Char) : List Char → List Char
  | [] => []
  | c :: rest =>
    let form :=
      if c == 'Σ' then
        if meetsCased before && !meetsCased rest then ['ς'] else ['σ']
      else lower c
    form ++ lowercaseFrom (c :: before) rest

/-- The lower-case form of a text. -/
def lowercase (text : String) : String := String.ofList (lowercaseFrom [] text.toList)

end EntityGen.Text
