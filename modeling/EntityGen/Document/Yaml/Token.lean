import EntityGen.Document.Yaml.Scalar
import EntityGen.Document.Yaml.Tag

/-!
# Tokens

The marks and values that a YAML text is made of. Indentation opens and closes block structures, and a
value that turns out to be a key gets its marks put in front of it afterwards, so tokens wait in a
queue until it is certain that no key begins at its head.
-/
namespace EntityGen.Document.Yaml

/-- A mark or value of a text. -/
inductive Token
  | streamEnd
  | versionDirective (major minor : Nat)
  | tagDirective (handle : String) (lead : Tag)
  | documentStart
  | documentEnd
  | blockSequenceStart
  | blockMappingStart
  | blockEnd
  | flowSequenceStart
  | flowSequenceEnd
  | flowMappingStart
  | flowMappingEnd
  | blockEntry
  | flowEntry
  | key
  | value
  | reference (name : String)
  | anchor (name : String)
  | tag (handle : String) (suffix : Tag)
  | scalar (text : String) (style : Style)
  deriving DecidableEq, Repr

/-- A token in a text. -/
structure PlacedToken where
  token : Token
  /-- Nothing stands before the token. -/
  isFirst : Bool
  deriving DecidableEq, Repr

/-- A place where a key without an indicator may begin. -/
structure KeyCandidate where
  /-- Something other than a key would be malformed here. -/
  required : Bool
  /-- The number of the token that the key begins with. -/
  token : Nat
  /-- The number of bytes before the place. -/
  offset : Nat
  line : Nat
  column : Nat
  deriving Repr

/-- Nothing stands before the place. -/
def KeyCandidate.isFirst (candidate : KeyCandidate) : Bool :=
  candidate.line == 0 && candidate.column == 0

/-- A text while its tokens are read. -/
structure Scanner where
  cursor : Cursor
  /-- The column of the block structure that is open, if one is. -/
  indent : Option Nat
  /-- The columns of the block structures around it, innermost first. -/
  outer : List (Option Nat)
  /-- A key may begin at the next token. -/
  keyAllowed : Bool
  /-- The candidate of the flow structure that is open or of the block. -/
  candidate : Option KeyCandidate
  /-- The candidates of the structures around it, innermost first; one for each open bracket. -/
  candidates : List (Option KeyCandidate)
  /-- Tokens that wait. -/
  queue : List PlacedToken
  /-- The number of tokens that were taken from the queue. -/
  taken : Nat

namespace Scanner

/-- The start of a text. -/
def start (text : List Char) : Scanner where
  cursor := .start text
  indent := none
  outer := []
  keyAllowed := true
  candidate := none
  candidates := []
  queue := []
  taken := 0

/-- The next token lies inside brackets. -/
def inFlow (s : Scanner) : Bool := !s.candidates.isEmpty

/-- Puts a token at the end of the queue. -/
def push (token : PlacedToken) (s : Scanner) : Scanner := { s with queue := s.queue ++ [token] }

/-- Puts a token in front of the token of a number. -/
def insert (number : Nat) (token : PlacedToken) (s : Scanner) : Scanner :=
  { s with queue := s.queue.insertIdx (number - s.taken) token }

/-- The column lies behind the open block structure. -/
def isDeeper (column : Nat) (s : Scanner) : Bool := s.indent.all (· < column)

/-- Opens a block structure at a column, in front of the token of a number. -/
def openBlock (column : Nat) (number : Option Nat) (token : PlacedToken) (s : Scanner) : Scanner :=
  if s.inFlow || !s.isDeeper column then s
  else
    let s := { s with outer := s.indent :: s.outer, indent := some column }
    match number with
    | none => s.push token
    | some number => s.insert number token

/-- Closes the block structures that lie deeper than a column, or all of them. -/
def closeBlocks (column : Option Nat) (s : Scanner) : Scanner :=
  if s.inFlow then s else go s.outer s
where
  /-- Closes blocks while `outer` lists the columns around the open one. -/
  go : List (Option Nat) → Scanner → Scanner
    | [], s => s
    | around :: rest, s =>
      match s.indent with
      | none => s
      | some open_ =>
        if column.all (· < open_) then
          go rest { s.push ⟨.blockEnd, false⟩ with indent := around, outer := rest }
        else s

/-- The greatest size of a key without an indicator, in bytes. -/
def maxKeyBytes : Nat := 1024

/-- A candidate is out of date behind its line or far behind its place. -/
def isStale (s : Scanner) (candidate : KeyCandidate) : Bool :=
  candidate.line < s.cursor.line || candidate.offset + maxKeyBytes < s.cursor.offset

/-- Drops a candidate that is out of date. -/
def refresh (s : Scanner) : Option KeyCandidate → Except Break (Option KeyCandidate)
  | none => .ok none
  | some candidate =>
    if s.isStale candidate then
      if candidate.required then .error .malformed else .ok none
    else .ok (some candidate)

/-- Drops the candidates that are out of date, outermost first. -/
def dropStale (s : Scanner) : Except Break Scanner := do
  let candidates ← (s.candidates.reverse.mapM s.refresh)
  let candidate ← s.refresh s.candidate
  .ok { s with candidate, candidates := candidates.reverse }

/-- Gives up the open candidate, because something else begins. -/
def dropCandidate (s : Scanner) : Except Break Scanner :=
  if s.candidate.any (·.required) then .error .malformed else .ok { s with candidate := none }

/-- Notes that a key may begin here. -/
def noteCandidate (s : Scanner) : Except Break Scanner :=
  if s.keyAllowed then do
    let s ← s.dropCandidate
    let candidate : KeyCandidate :=
      { required := !s.inFlow && s.indent == some s.cursor.column
        token := s.taken + s.queue.length
        offset := s.cursor.offset
        line := s.cursor.line
        column := s.cursor.column }
    .ok { s with candidate := some candidate }
  else .ok s

/-- The place of the next token, behind blanks, comments and line ends. -/
def toNextToken : (fuel : Nat) → Scanner → Scanner
  | 0, s => s
  | fuel + 1, s =>
    let cursor := if s.cursor.column == 0 && s.cursor.sees '\uFEFF' then s.cursor.next else s.cursor
    let tabs := s.inFlow || !s.keyAllowed
    let cursor := (cursor.takeWhile fun c => c == ' ' || (tabs && c == '\t')).2
    let cursor := cursor.skipComment
    if cursor.seesLineEnd then
      toNextToken fuel
        { s with cursor := cursor.lineEnd.2, keyAllowed := s.keyAllowed || !s.inFlow }
    else { s with cursor }

/-- Takes a token of a number of characters. -/
def mark (count : Nat) (token : Token) (s : Scanner) : Scanner :=
  { s with cursor := s.cursor.skip count }.push ⟨token, s.cursor.isFirst⟩

/-- The end of the text. -/
def fetchEnd (s : Scanner) : Except Break Scanner := do
  let cursor := if s.cursor.column == 0 then s.cursor
    else { s.cursor with column := 0, line := s.cursor.line + 1 }
  let s ← ({ s with cursor }.closeBlocks none).dropCandidate
  .ok ({ s with keyAllowed := false }.push ⟨.streamEnd, false⟩)

/-- The digits of a version number, at most nine. -/
def versionNumber (cursor : Cursor) : Except Break (Nat × Cursor) :=
  let (digits, cursor) := cursor.takeWhile isDigit
  if digits.isEmpty || 9 < digits.length then .error .malformed
  else .ok (digits.foldl (fun n c => n * 10 + (c.toNat - '0'.toNat)) 0, cursor)

/-- The version that a directive states. -/
def version (cursor : Cursor) : Except Break (Token × Cursor) := do
  let (major, cursor) ← versionNumber cursor.skipBlanks
  if !cursor.sees '.' then .error .malformed
  let (minor, cursor) ← versionNumber cursor.next
  .ok (.versionDirective major minor, cursor)

/-- A tag handle: an exclamation mark, word characters, and perhaps another mark. -/
def tagHandle (directive : Bool) (cursor : Cursor) : Except Break (List Char × Cursor) :=
  if !cursor.sees '!' then .error .malformed
  else
    let (word, cursor) := cursor.next.takeWhile isWordChar
    if cursor.sees '!' then .ok ('!' :: word ++ ['!'], cursor.next)
    else if directive && !word.isEmpty then .error .malformed
    else .ok ('!' :: word, cursor)

/-- The characters of a tag besides word characters; a tag between angle brackets has more. -/
def isTagChar (verbatim : Bool) (c : Char) : Bool :=
  isWordChar c
    || [';', '/', '?', ':', '@', '&', '=', '+', '$', '.', '%', '!', '~', '*', '\'', '(', ')'].contains c
    || (verbatim && [',', '[', ']'].contains c)

/-- A byte written as a percent sign and two digits. -/
def percentByte (cursor : Cursor) : Except Break (Nat × Cursor) :=
  match cursor.text with
  | '%' :: high :: low :: _ =>
    match hexValue? high, hexValue? low with
    | some high, some low => .ok (high * 16 + low, cursor.skip 3)
    | _, _ => .error .malformed
  | _ => .error .malformed

/-- The bytes of a character behind its first one. -/
def percentTail : Nat → Cursor → Except Break (List Nat × Cursor)
  | 0, cursor => .ok ([], cursor)
  | count + 1, cursor => do
    let (byte, cursor) ← percentByte cursor
    if byte / 64 != 2 then .error .malformed
    else
      let (tail, cursor) ← percentTail count cursor
      .ok (byte :: tail, cursor)

/-- The bytes of a character written as percent signs and digits. How many there are is told by the
first one. -/
def percentBytes (cursor : Cursor) : Except Break (List Nat × Cursor) := do
  let (byte, cursor) ← percentByte cursor
  let (tail, cursor) ←
    if byte < 0x80 then .ok ([], cursor)
    else if byte / 32 == 6 then percentTail 1 cursor
    else if byte / 16 == 14 then percentTail 2 cursor
    else if byte / 8 == 30 then percentTail 3 cursor
    else .error .malformed
  .ok (byte :: tail, cursor)

/-- The bytes of a tag from here on. -/
def tagBytes (verbatim : Bool) : (fuel : Nat) → Cursor → Except Break (List Nat × Cursor)
  | 0, cursor => .ok ([], cursor)
  | fuel + 1, cursor =>
    match cursor.text with
    | '%' :: _ => do
      let (bytes, cursor) ← percentBytes cursor
      let (rest, cursor) ← tagBytes verbatim fuel cursor
      .ok (bytes ++ rest, cursor)
    | c :: _ =>
      if isTagChar verbatim c then do
        let (rest, cursor) ← tagBytes verbatim fuel cursor.next
        .ok (c.toNat :: rest, cursor)
      else .ok ([], cursor)
    | [] => .ok ([], cursor)

/-- The tag behind a handle, with at least one of handle and bytes. A zero byte ends it, whatever
follows. -/
def tagText (verbatim : Bool) (head : List Char) (cursor : Cursor) :
    Except Break (Tag × Cursor) := do
  let (bytes, cursor) ← tagBytes verbatim (cursor.remaining + 1) cursor
  if head.isEmpty && bytes.isEmpty then .error .malformed
  else
    let bytes := (head.drop 1).map Char.toNat ++ bytes
    .ok (⟨(bytes.takeWhile (· != 0)).map UInt8.ofNat⟩, cursor)

/-- A directive that gives a handle a meaning. -/
def tagMeaning (cursor : Cursor) : Except Break (Token × Cursor) := do
  let (handle, cursor) ← tagHandle true cursor.skipBlanks
  if !cursor.seesBlank then .error .malformed
  let (lead, cursor) ← tagText true [] cursor.skipBlanks
  if !cursor.wordIsOver then .error .malformed
  .ok (.tagDirective (String.ofList handle) lead, cursor)

/-- A directive behind its percent sign, with the rest of its line. -/
def directive (cursor : Cursor) : Except Break (Token × Cursor) := do
  let (name, cursor) := cursor.takeWhile isWordChar
  if name.isEmpty || !cursor.wordIsOver then .error .malformed
  let (token, cursor) ←
    if name == "YAML".toList then version cursor
    else if name == "TAG".toList then tagMeaning cursor
    else .error .malformed
  .ok (token, ← cursor.finishLine)

/-- The name of an anchor or reference. -/
def anchorName (cursor : Cursor) : Except Break (String × Cursor) :=
  let (name, cursor) := cursor.takeWhile isWordChar
  let closes := cursor.wordIsOver
    || (cursor.at? 0).any ['?', ':', ',', ']', '\x7d', '%', '@', '\x60'].contains
  if name.isEmpty || !closes then .error .malformed else .ok (String.ofList name, cursor)

/-- A tag: verbatim, with a handle, or local. -/
def tag (inFlow : Bool) (cursor : Cursor) : Except Break (Token × Cursor) := do
  let (handle, suffix, cursor) ←
    if cursor.sees '<' 1 then do
      let (suffix, cursor) ← tagText true [] (cursor.skip 2)
      if cursor.sees '>' then .ok ([], suffix, cursor.next) else .error .malformed
    else do
      let (handle, behind) ← tagHandle false cursor
      if 1 < handle.length && handle.getLast? == some '!' then do
        let (suffix, cursor) ← tagText false [] behind
        .ok (handle, suffix, cursor)
      else do
        let (suffix, cursor) ← tagText false handle behind
        if suffix.bytes.isEmpty then .ok ([], .ofString "!", cursor)
        else .ok (['!'], suffix, cursor)
  if !(inFlow && cursor.sees ',') && !cursor.wordIsOver then .error .malformed
  .ok (.tag (String.ofList handle) suffix, cursor)

/-- The start of a list or mapping between brackets. -/
def openFlow (token : Token) (s : Scanner) : Except Break Scanner := do
  let s ← s.noteCandidate
  .ok ({ s with
    candidates := s.candidate :: s.candidates, candidate := none, keyAllowed := true }.mark 1 token)

/-- The end of a list or mapping between brackets. -/
def closeFlow (token : Token) (s : Scanner) : Except Break Scanner := do
  let s ← s.dropCandidate
  let s := match s.candidates with
    | [] => s
    | candidate :: rest => { s with candidate, candidates := rest }
  .ok ({ s with keyAllowed := false }.mark 1 token)

/-- A comma between brackets. -/
def flowEntry (s : Scanner) : Except Break Scanner := do
  let s ← s.dropCandidate
  .ok ({ s with keyAllowed := true }.mark 1 .flowEntry)

/-- The mark of an item of a block list. -/
def blockEntry (s : Scanner) : Except Break Scanner := do
  if !s.inFlow && !s.keyAllowed then .error .malformed
  let s ← (s.openBlock s.cursor.column none ⟨.blockSequenceStart, s.cursor.isFirst⟩).dropCandidate
  .ok ({ s with keyAllowed := true }.mark 1 .blockEntry)

/-- The mark of a key. -/
def keyMark (s : Scanner) : Except Break Scanner := do
  if !s.inFlow && !s.keyAllowed then .error .malformed
  let s ← (s.openBlock s.cursor.column none ⟨.blockMappingStart, s.cursor.isFirst⟩).dropCandidate
  .ok ({ s with keyAllowed := !s.inFlow }.mark 1 .key)

/-- The mark of a value. A candidate for a key becomes one. -/
def valueMark (s : Scanner) : Except Break Scanner :=
  match s.candidate with
  | some candidate =>
    let s := (s.insert candidate.token ⟨.key, candidate.isFirst⟩).openBlock candidate.column
      (some candidate.token) ⟨.blockMappingStart, candidate.isFirst⟩
    .ok ({ s with candidate := none, keyAllowed := false }.mark 1 .value)
  | none =>
    if !s.inFlow && !s.keyAllowed then .error .malformed
    else
      let s := s.openBlock s.cursor.column none ⟨.blockMappingStart, s.cursor.isFirst⟩
      .ok ({ s with keyAllowed := !s.inFlow }.mark 1 .value)

/-- A marker between documents, or a directive. -/
def between (s : Scanner) : Except Break Scanner := do
  let s ← (s.closeBlocks none).dropCandidate
  .ok { s with keyAllowed := false }

/-- A token that may begin a key and is read by `read`. -/
def atom (read : Cursor → Except Break (Token × Cursor)) (s : Scanner) : Except Break Scanner := do
  let s ← s.noteCandidate
  let (token, cursor) ← read s.cursor
  .ok ({ s with keyAllowed := false, cursor }.push ⟨token, s.cursor.isFirst⟩)

/-- A plain scalar. A line end behind it allows a key again. -/
def plainScalar (s : Scanner) : Except Break Scanner := do
  let s ← s.noteCandidate
  let indent := match s.indent with
    | some column => column + 1
    | none => 0
  let (chars, broken, cursor) ←
    plainValue s.inFlow indent (s.cursor.remaining + 1) .none s.cursor
  .ok ({ s with keyAllowed := broken, cursor }.push
    ⟨.scalar (String.ofList chars) .plain, s.cursor.isFirst⟩)

/-- A quoted scalar. -/
def quotedScalar (single : Bool) : Scanner → Except Break Scanner :=
  atom fun cursor => do
    let (chars, cursor) ← quotedValue single (cursor.remaining + 1) cursor.next
    .ok (.scalar (String.ofList chars) (if single then .singleQuoted else .doubleQuoted), cursor)

/-- A block of lines. -/
def blockScalar (fold : Bool) (s : Scanner) : Except Break Scanner := do
  let s ← s.dropCandidate
  let (chars, cursor) ← blockValue fold s.indent s.cursor.next
  .ok ({ s with keyAllowed := true, cursor }.push
    ⟨.scalar (String.ofList chars) (if fold then .folded else .literal), s.cursor.isFirst⟩)

/-- The characters that cannot begin a plain scalar. -/
def isIndicator (c : Char) : Bool :=
  ['-', '?', ':', ',', '[', ']', '\x7b', '\x7d', '#', '&', '*', '!', '|', '>', '\'', '"', '%', '@',
    '\x60'].contains c

/-- A plain scalar begins here. -/
def startsPlain (s : Scanner) (c : Char) : Bool :=
  !(isBlank c || isLineEnd c || isIndicator c)
    || (c == '-' && !s.cursor.seesBlank 1)
    || (!s.inFlow && (c == '?' || c == ':') && !s.cursor.wordIsOver 1)

/-- Reads the next token that begins with a character. -/
def fetchAt (s : Scanner) (c : Char) : Except Break Scanner :=
  let wordIsOver := s.cursor.wordIsOver 1
  if s.cursor.column == 0 && c == '%' then do
    let s ← s.between
    let (token, cursor) ← directive s.cursor.next
    .ok ({ s with cursor }.push ⟨token, false⟩)
  else if s.cursor.seesMarker '-' then do .ok ((← s.between).mark 3 .documentStart)
  else if s.cursor.seesMarker '.' then do .ok ((← s.between).mark 3 .documentEnd)
  else if c == '[' then s.openFlow .flowSequenceStart
  else if c == '\x7b' then s.openFlow .flowMappingStart
  else if c == ']' then s.closeFlow .flowSequenceEnd
  else if c == '\x7d' then s.closeFlow .flowMappingEnd
  else if c == ',' then s.flowEntry
  else if c == '-' && wordIsOver then s.blockEntry
  else if c == '?' && (s.inFlow || wordIsOver) then s.keyMark
  else if c == ':' && (s.inFlow || wordIsOver) then s.valueMark
  else if c == '*' then
    s.atom fun cursor => do
      let (name, cursor) ← anchorName cursor.next
      .ok (.reference name, cursor)
  else if c == '&' then
    s.atom fun cursor => do
      let (name, cursor) ← anchorName cursor.next
      .ok (.anchor name, cursor)
  else if c == '!' then s.atom (tag s.inFlow)
  else if c == '|' && !s.inFlow then s.blockScalar false
  else if c == '>' && !s.inFlow then s.blockScalar true
  else if c == '\'' then s.quotedScalar true
  else if c == '"' then s.quotedScalar false
  else if s.startsPlain c then s.plainScalar
  else .error .malformed

/-- Reads the next token. -/
def fetch (s : Scanner) : Except Break Scanner := do
  let s ← (s.toNextToken (s.cursor.remaining + 1)).dropStale
  let s := s.closeBlocks (some s.cursor.column)
  match s.cursor.at? 0 with
  | none => s.fetchEnd
  | some c => s.fetchAt c

/-- A candidate begins at the head of the queue. -/
def keyAtHead (s : Scanner) : Bool :=
  (s.candidate :: s.candidates).any fun candidate => candidate.any (·.token == s.taken)

/-- Reads tokens until the head of the queue is certain. -/
def ready : (fuel : Nat) → Scanner → Except Break Scanner
  | 0, _ => .error .malformed
  | fuel + 1, s =>
    if s.queue.isEmpty then do ready fuel (← s.fetch)
    else do
      let s ← s.dropStale
      if s.keyAtHead then ready fuel (← s.fetch) else .ok s

/-- The token at the head of the queue. -/
def peek (s : Scanner) : Except Break (PlacedToken × Scanner) := do
  let s ← s.ready (2 * s.cursor.remaining + 4)
  match s.queue with
  | [] => .error .malformed
  | token :: _ => .ok (token, s)

/-- The scanner without the token at the head of the queue. -/
def advance (s : Scanner) : Scanner := { s with queue := s.queue.drop 1, taken := s.taken + 1 }

end Scanner

end EntityGen.Document.Yaml
