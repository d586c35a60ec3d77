import EntityGen.Document.Yaml.Cursor

/-!
# Scalars

The three ways to write a text value: plain, between quotes, and as a block of lines. Line ends inside
a plain or quoted value fold into blanks, and a block keeps or folds them.
-/
namespace EntityGen.Document.Yaml

/-- How a scalar is written. -/
inductive Style
  | plain
  | singleQuoted
  | doubleQuoted
  | literal
  | folded
  deriving DecidableEq, Repr

/-- The blanks and line ends between two parts of a value. -/
structure Gap where
  blanks : List Char
  /-- The first line end. -/
  first : List Char
  /-- The other line ends. -/
  more : List Char
  /-- The gap goes over a line end. -/
  broken : Bool

namespace Gap

/-- No gap. -/
def none : Gap := ⟨[], [], [], false⟩

/-- A first line end on its own counts as a space; with more behind it, it is dropped. -/
def fold (first more : List Char) : List Char :=
  if first == ['\n'] then (if more.isEmpty then [' '] else more) else first ++ more

/-- What a gap amounts to in the value. -/
def folded (gap : Gap) : List Char := if gap.broken then fold gap.first gap.more else gap.blanks

/-- Reads blanks and line ends. In a plain value a tab in the indentation of a later line, up to
column `indent`, is malformed. -/
def scan (indent : Nat) : (fuel : Nat) → Gap → Cursor → Except Break (Gap × Cursor)
  | 0, gap, cursor => .ok (gap, cursor)
  | fuel + 1, gap, cursor =>
    if cursor.seesBlank then
      if gap.broken && cursor.column < indent && cursor.sees '\t' then .error .malformed
      else
        let gap := if gap.broken then gap
          else { gap with blanks := gap.blanks ++ cursor.text.take 1 }
        scan indent fuel gap cursor.next
    else if cursor.seesLineEnd then
      let (ending, cursor) := cursor.lineEnd
      let gap := if gap.broken then { gap with more := gap.more ++ ending }
        else { gap with blanks := [], first := ending, broken := true }
      scan indent fuel gap cursor
    else .ok (gap, cursor)

end Gap

/-- The characters that end a plain value inside brackets. -/
def isFlowMark (c : Char) : Bool := c == ',' || c == '[' || c == ']' || c == '\x7b' || c == '\x7d'

/-- The part of a plain value up to a blank or an indicator. -/
def plainWord (inFlow : Bool) : (fuel : Nat) → Cursor → Except Break (List Char × Cursor)
  | 0, cursor => .ok ([], cursor)
  | fuel + 1, cursor =>
    match cursor.text with
    | [] => .ok ([], cursor)
    | c :: _ =>
      if isBlank c || isLineEnd c then .ok ([], cursor)
      else if inFlow && c == ':' && (cursor.at? 1).any (fun d => isFlowMark d || d == '?') then
        .error .malformed
      else if (c == ':' && cursor.wordIsOver 1) || (inFlow && isFlowMark c) then .ok ([], cursor)
      else do
        let (rest, cursor) ← plainWord inFlow fuel cursor.next
        .ok (c :: rest, cursor)

/-- Reads a plain value: its characters, whether a line end follows it, and the place behind. The
value goes on while its lines stand at or behind column `indent`. -/
def plainValue (inFlow : Bool) (indent : Nat) :
    (fuel : Nat) → Gap → Cursor → Except Break (List Char × Bool × Cursor)
  | 0, gap, cursor => .ok ([], gap.broken, cursor)
  | fuel + 1, gap, cursor =>
    if cursor.seesDocumentMarker || cursor.sees '#' then .ok ([], gap.broken, cursor)
    else do
      let (word, cursor) ← plainWord inFlow (cursor.remaining + 1) cursor
      let lead := if word.isEmpty then [] else gap.folded ++ word
      let broken := word.isEmpty && gap.broken
      if !(cursor.seesBlank || cursor.seesLineEnd) then .ok (lead, broken, cursor)
      else
        let (gap, cursor) ← Gap.scan indent (cursor.remaining + 1) .none cursor
        if !inFlow && cursor.column < indent then .ok (lead, gap.broken, cursor)
        else
          let (rest, broken, cursor) ← plainValue inFlow indent fuel gap cursor
          .ok (lead ++ rest, broken, cursor)

/-- The character of an escape of one letter. -/
def escape? (c : Char) : Option Char :=
  match c with
  | '0' => some '\x00'
  | 'a' => some '\x07'
  | 'b' => some '\x08'
  | 't' | '\t' => some '\t'
  | 'n' => some '\n'
  | 'v' => some '\x0b'
  | 'f' => some '\x0c'
  | 'r' => some '\r'
  | 'e' => some '\x1b'
  | ' ' => some ' '
  | '"' => some '"'
  | '/' => some '/'
  | '\\' => some '\\'
  | 'N' => some '\u0085'
  | '_' => some '\u00A0'
  | 'L' => some '\u2028'
  | 'P' => some '\u2029'
  | _ => none

/-- The number of digits of an escape by code. -/
def escapeWidth? (c : Char) : Option Nat :=
  match c with
  | 'x' => some 2
  | 'u' => some 4
  | 'U' => some 8
  | _ => none

/-- The value of a hexadecimal digit. -/
def hexValue? (c : Char) : Option Nat :=
  if '0' ≤ c && c ≤ '9' then some (c.toNat - '0'.toNat)
  else if 'a' ≤ c && c ≤ 'f' then some (c.toNat - 'a'.toNat + 10)
  else if 'A' ≤ c && c ≤ 'F' then some (c.toNat - 'A'.toNat + 10)
  else none

/-- The character of a code written in hexadecimal digits. -/
def charOfDigits (digits : List Char) : Except Break Char :=
  match digits.mapM hexValue? with
  | none => .error .malformed
  | some values =>
    let code := values.foldl (fun code value => code * 16 + value) 0
    if code.isValidChar then .ok (Char.ofNat code) else .error .malformed

/-- Reads an escape behind its backslash. -/
def escape (cursor : Cursor) : Except Break (Char × Cursor) :=
  match cursor.text with
  | [] => .error .malformed
  | c :: rest =>
    match escape? c, escapeWidth? c with
    | some value, _ => .ok (value, cursor.next)
    | none, some width =>
      if rest.length < width then .error .malformed
      else do
        let value ← charOfDigits (rest.take width)
        .ok (value, cursor.skip (width + 1))
    | none, none => .error .malformed

/-- The part of a quoted value up to a blank or the closing quote, and whether an escaped line end
ends it. -/
def quotedWord (single : Bool) :
    (fuel : Nat) → Cursor → Except Break (List Char × Bool × Cursor)
  | 0, cursor => .ok ([], false, cursor)
  | fuel + 1, cursor =>
    let keep (c : Char) (cursor : Cursor) : Except Break (List Char × Bool × Cursor) := do
      let (rest, broken, cursor) ← quotedWord single fuel cursor
      .ok (c :: rest, broken, cursor)
    match cursor.text with
    | [] => .ok ([], false, cursor)
    | c :: _ =>
      if isBlank c || isLineEnd c then .ok ([], false, cursor)
      else if single && c == '\'' && cursor.sees '\'' 1 then keep '\'' (cursor.skip 2)
      else if c == (if single then '\'' else '"') then .ok ([], false, cursor)
      else if !single && c == '\\' then
        if cursor.seesLineEnd 1 then .ok ([], true, cursor.next.lineEnd.2)
        else do
          let (value, cursor) ← escape cursor.next
          keep value cursor
      else keep c cursor.next

/-- Reads a quoted value behind its opening quote. -/
def quotedValue (single : Bool) : (fuel : Nat) → Cursor → Except Break (List Char × Cursor)
  | 0, _ => .error .malformed
  | fuel + 1, cursor =>
    if cursor.seesDocumentMarker || cursor.atEnd then .error .malformed
    else do
      let (word, broken, cursor) ← quotedWord single (cursor.remaining + 1) cursor
      if cursor.sees (if single then '\'' else '"') then .ok (word, cursor.next)
      else
        let (gap, cursor) ←
          Gap.scan 0 (cursor.remaining + 1) { Gap.none with broken } cursor
        let (rest, cursor) ← quotedValue single fuel cursor
        .ok (word ++ gap.folded ++ rest, cursor)

/-- What the header of a block says about its end. -/
inductive Chomping
  | strip
  | clip
  | keep
  deriving DecidableEq, Repr

/-- Reads the sign that says what becomes of the line ends behind a block. -/
def chomping? (cursor : Cursor) : Option (Chomping × Cursor) :=
  if cursor.sees '+' then some (.keep, cursor.next)
  else if cursor.sees '-' then some (.strip, cursor.next)
  else none

/-- Reads the digit that gives the indentation of a block. -/
def increment? (cursor : Cursor) : Except Break (Option Nat × Cursor) :=
  match cursor.at? 0 with
  | some c =>
    if c == '0' then .error .malformed
    else if isDigit c then .ok (some (c.toNat - '0'.toNat), cursor.next)
    else .ok (none, cursor)
  | none => .ok (none, cursor)

/-- Reads the header of a block behind its indicator: chomping, indentation, and the rest of the
line. -/
def blockHeader (cursor : Cursor) : Except Break (Chomping × Option Nat × Cursor) := do
  match chomping? cursor with
  | some (chomping, cursor) =>
    let (increment, cursor) ← increment? cursor
    .ok (chomping, increment, ← cursor.finishLine)
  | none =>
    let (increment, cursor) ← increment? cursor
    match increment, chomping? cursor with
    | some _, some (chomping, cursor) => .ok (chomping, increment, ← cursor.finishLine)
    | _, _ => .ok (.clip, increment, ← cursor.finishLine)

/-- The place behind indentation, up to column `indent` if that is known. -/
def skipIndent (indent : Option Nat) : (fuel : Nat) → Cursor → Cursor
  | 0, cursor => cursor
  | fuel + 1, cursor =>
    if indent.all (cursor.column < ·) && cursor.sees ' ' then skipIndent indent fuel cursor.next
    else cursor

/-- Reads the empty lines of a block and the indentation of the line behind them: the line ends, the
greatest column met, and the place. -/
def blockGap (indent : Option Nat) :
    (fuel : Nat) → (greatest : Nat) → Cursor → Except Break (List Char × Nat × Cursor)
  | 0, greatest, cursor => .ok ([], greatest, cursor)
  | fuel + 1, greatest, cursor =>
    let cursor := skipIndent indent (cursor.remaining + 1) cursor
    let greatest := max greatest cursor.column
    if indent.all (cursor.column < ·) && cursor.sees '\t' then .error .malformed
    else if !cursor.seesLineEnd then .ok ([], greatest, cursor)
    else do
      let (ending, cursor) := cursor.lineEnd
      let (more, greatest, cursor) ← blockGap indent fuel greatest cursor
      .ok (ending ++ more, greatest, cursor)

/-- A block while its lines are read. -/
structure BlockState where
  /-- The line end behind the last line. -/
  pending : List Char
  /-- The line ends of the empty lines behind it. -/
  empties : List Char
  /-- The last line began with a blank. -/
  wasIndented : Bool

/-- Reads the lines of a block at column `indent`. -/
def blockLines (fold : Bool) (indent : Nat) :
    (fuel : Nat) → BlockState → Cursor → Except Break (List Char × BlockState × Cursor)
  | 0, state, cursor => .ok ([], state, cursor)
  | fuel + 1, state, cursor =>
    if cursor.column != indent || cursor.atEnd then .ok ([], state, cursor)
    else do
      let indented := cursor.seesBlank
      let lead :=
        if fold && state.pending == ['\n'] && !state.wasIndented && !indented then
          (if state.empties.isEmpty then [' '] else state.empties)
        else state.pending ++ state.empties
      let (line, cursor) := cursor.takeWhile fun c => !isLineEnd c
      let (ending, cursor) := cursor.lineEnd
      let (empties, _, cursor) ← blockGap (some indent) (cursor.remaining + 1) 0 cursor
      let (rest, state, cursor) ← blockLines fold indent fuel ⟨ending, empties, indented⟩ cursor
      .ok (lead ++ line ++ rest, state, cursor)

/-- Reads a block behind its indicator; `indent` is the column of the surrounding structure, if there
is one. -/
def blockValue (fold : Bool) (indent : Option Nat) (cursor : Cursor) :
    Except Break (List Char × Cursor) := do
  let (chomping, increment, cursor) ← blockHeader cursor
  let given := increment.map fun n => n + indent.getD 0
  let (empties, greatest, cursor) ← blockGap given (cursor.remaining + 1) 0 cursor
  let column := given.getD (max greatest (max 1 (match indent with
    | some n => n + 1
    | none => 0)))
  let (text, state, cursor) ←
    blockLines fold column (cursor.remaining + 1) ⟨[], empties, false⟩ cursor
  .ok (text
    ++ (if chomping != .strip then state.pending else [])
    ++ (if chomping == .keep then state.empties else []), cursor)

end EntityGen.Document.Yaml
