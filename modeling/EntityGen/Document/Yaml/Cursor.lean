import EntityGen.Document.Problem

/-!
# Cursors

A place in a YAML text, with its line and column, and the character classes that the rules of the
format are stated in.
-/
namespace EntityGen.Document.Yaml

/-- A place in a text. -/
structure Cursor where
  /-- What is not read yet. -/
  text : List Char
  /-- The number of characters of the whole text. -/
  size : Nat
  /-- The number of characters read. -/
  index : Nat
  /-- The number of bytes read. -/
  offset : Nat
  line : Nat
  column : Nat
  deriving Repr

/-- A space or a tab. -/
def isBlank (c : Char) : Bool := c == ' ' || c == '\t'

/-- A line end. -/
def isLineEnd (c : Char) : Bool :=
  c == '\n' || c == '\r' || c == '\u0085' || c == '\u2028' || c == '\u2029'

/-- A letter, digit, underscore or hyphen. -/
def isWordChar (c : Char) : Bool :=
  ('a' ≤ c && c ≤ 'z') || ('A' ≤ c && c ≤ 'Z') || ('0' ≤ c && c ≤ '9') || c == '_' || c == '-'

/-- A decimal digit. -/
def isDigit (c : Char) : Bool := '0' ≤ c && c ≤ '9'

/-- The characters that a text may hold. -/
def isAllowed (c : Char) : Bool :=
  c == '\t' || c == '\n' || c == '\r' || (' ' ≤ c && c ≤ '~') || c == '\u0085'
    || ('\u00A0' ≤ c && c ≤ '\uFFFD') || 0x10000 ≤ c.toNat

namespace Cursor

/-- The start of a text. -/
def start (text : List Char) : Cursor := ⟨text, text.length, 0, 0, 0, 0⟩

/-- Nothing stands before the place. -/
def isFirst (cursor : Cursor) : Bool := cursor.line == 0 && cursor.column == 0

/-- The number of characters that are not read yet. -/
def remaining (cursor : Cursor) : Nat := cursor.size - cursor.index

/-- The character at a distance. -/
def at? (cursor : Cursor) (distance : Nat) : Option Char := cursor.text[distance]?

/-- The character at a distance is the given one. -/
def sees (cursor : Cursor) (c : Char) (distance : Nat := 0) : Bool := cursor.at? distance == some c

/-- The text has ended. -/
def atEnd (cursor : Cursor) : Bool := cursor.text.isEmpty

/-- A space or tab follows at a distance. -/
def seesBlank (cursor : Cursor) (distance : Nat := 0) : Bool := (cursor.at? distance).any isBlank

/-- A line end follows at a distance. -/
def seesLineEnd (cursor : Cursor) (distance : Nat := 0) : Bool := (cursor.at? distance).any isLineEnd

/-- A line end or the end of the text follows. -/
def lineIsOver (cursor : Cursor) (distance : Nat := 0) : Bool :=
  (cursor.at? distance).all isLineEnd

/-- A space, a tab, a line end or the end of the text follows at a distance. -/
def wordIsOver (cursor : Cursor) (distance : Nat := 0) : Bool :=
  (cursor.at? distance).all fun c => isBlank c || isLineEnd c

/-- The number of bytes of the characters in front. -/
def bytesAhead (cursor : Cursor) (count : Nat) : Nat :=
  (cursor.text.take count).foldl (fun bytes c => bytes + c.utf8Size) 0

/-- The place behind several characters of the same line. -/
def skip (cursor : Cursor) (count : Nat) : Cursor :=
  { cursor with
    text := cursor.text.drop count
    index := cursor.index + count
    offset := cursor.offset + cursor.bytesAhead count
    column := cursor.column + count }

/-- The place behind the next character, on the same line. -/
def next (cursor : Cursor) : Cursor := cursor.skip 1

/-- The line end that follows, as it counts in a text, and the place behind it. -/
def lineEnd (cursor : Cursor) : List Char × Cursor :=
  let behind (count : Nat) : Cursor :=
    { cursor with
      text := cursor.text.drop count
      index := cursor.index + count
      offset := cursor.offset + cursor.bytesAhead count
      line := cursor.line + 1
      column := 0 }
  match cursor.text with
  | '\r' :: '\n' :: _ => (['\n'], behind 2)
  | '\r' :: _ | '\n' :: _ | '\u0085' :: _ => (['\n'], behind 1)
  | '\u2028' :: _ => (['\u2028'], behind 1)
  | '\u2029' :: _ => (['\u2029'], behind 1)
  | _ => ([], cursor)

/-- The characters up to the first that fails a test, and the place of that one. -/
def takeWhile (test : Char → Bool) (cursor : Cursor) : List Char × Cursor :=
  let taken := cursor.text.takeWhile test
  (taken, cursor.skip taken.length)

/-- The place behind spaces and tabs. -/
def skipBlanks (cursor : Cursor) : Cursor := (cursor.takeWhile isBlank).2

/-- The place behind a comment, if one starts here. -/
def skipComment (cursor : Cursor) : Cursor :=
  if cursor.sees '#' then (cursor.takeWhile fun c => !isLineEnd c).2 else cursor

/-- Three equal characters at the start of a line, as they part documents. -/
def seesMarker (cursor : Cursor) (c : Char) : Bool :=
  cursor.column == 0 && cursor.sees c 0 && cursor.sees c 1 && cursor.sees c 2
    && cursor.wordIsOver 3

/-- A marker between documents. -/
def seesDocumentMarker (cursor : Cursor) : Bool := cursor.seesMarker '-' || cursor.seesMarker '.'

/-- The rest of a line that may only hold a comment, with its end. -/
def finishLine (cursor : Cursor) : Except Break Cursor :=
  let cursor := cursor.skipBlanks.skipComment
  if !cursor.lineIsOver then .error .malformed else .ok cursor.lineEnd.2

end Cursor

end EntityGen.Document.Yaml
