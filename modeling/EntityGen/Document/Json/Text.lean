import EntityGen.Document.Json

/-!
# Nodes of a JSON text

`JsonText.ofString` reads a text into a tree. Nothing is refused here: the tree records where the text
breaks off, and a reader of the tree decides what that means.
-/
namespace EntityGen.Document.Json

/-- The text behind a node, or why there is none. -/
abbrev Rest := Except Break (List Char)

/-- The four blanks of the format. -/
def isSpace (c : Char) : Bool := c == ' ' || c == '\n' || c == '\t' || c == '\r'

/-- The text without blanks in front. -/
def skipSpace (text : List Char) : List Char := text.dropWhile isSpace

/-- Why a text that begins like this cannot go on: it ends, or it holds something else. -/
def breakAt : List Char → Break
  | [] => .truncated
  | _ :: _ => .malformed

/-- Reads the rest of a fixed word. -/
def word (node : Json) : List Char → List Char → Json × Rest
  | [], text => (node, .ok text)
  | c :: cs, d :: text =>
    if c == d then word node cs text else (.broken .malformed .malformed, .error .malformed)
  | _ :: _, [] => (.broken .truncated .truncated, .error .truncated)

/-- The value of a hexadecimal digit. -/
def hexValue? (c : Char) : Option Nat :=
  if '0' ≤ c && c ≤ '9' then some (c.toNat - '0'.toNat)
  else if 'a' ≤ c && c ≤ 'f' then some (c.toNat - 'a'.toNat + 10)
  else if 'A' ≤ c && c ≤ 'F' then some (c.toNat - 'A'.toNat + 10)
  else none

/-- The size of a text in bytes. -/
def byteCount (text : List Char) : Nat := text.foldl (fun size c => size + c.utf8Size) 0

/-- Reads the four digits of an escaped unit. The text ends too early when fewer than four bytes are
left. -/
def unit : List Char → Except Break (Nat × List Char)
  | a :: b :: c :: d :: text =>
    match hexValue? a, hexValue? b, hexValue? c, hexValue? d with
    | some a, some b, some c, some d => .ok (((a * 16 + b) * 16 + c) * 16 + d, text)
    | _, _, _, _ => .error .malformed
  | text => .error (if byteCount text < 4 then .truncated else .malformed)

/-- The character of an escape of one letter. -/
def simpleEscape? (c : Char) : Option Char :=
  if c == '"' || c == '\\' || c == '/' then some c
  else if c == 'b' then some '\x08'
  else if c == 'f' then some '\x0c'
  else if c == 'n' then some '\n'
  else if c == 'r' then some '\r'
  else if c == 't' then some '\t'
  else none

/-- The first half of a surrogate pair. -/
def isLeading (code : Nat) : Bool := 0xD800 ≤ code && code ≤ 0xDBFF

/-- The second half of a surrogate pair. -/
def isTrailing (code : Nat) : Bool := 0xDC00 ≤ code && code ≤ 0xDFFF

/-- The character of a surrogate pair. -/
def joinPair (leading trailing : Nat) : Char :=
  Char.ofNat (0x10000 + (leading - 0xD800) * 0x400 + (trailing - 0xDC00))

/-- What reading a text value gives. -/
structure TextValue where
  /-- The characters, or why a reader that keeps them must stop. -/
  kept : Except Break (List Char)
  /-- What follows the closing quote, or why a reader that passes over the value must stop. -/
  rest : Rest

namespace TextValue

/-- The value breaks off for every reader. -/
def stop (cause : Break) : TextValue := ⟨.error cause, .error cause⟩

/-- The value with a character in front. -/
def cons (c : Char) (value : TextValue) : TextValue := { value with kept := value.kept.map (c :: ·) }

/-- The value behind something that cannot be kept. -/
def spoilt (value : TextValue) : TextValue := { value with kept := .error .malformed }

end TextValue

/-- Reads a text value behind its opening quote. A unit that is half of a surrogate pair without the
other half spoils the value for a reader that keeps it. -/
def textValue : (fuel : Nat) → List Char → TextValue
  | 0, _ => .stop .truncated
  | _, [] => .stop .truncated
  | _ + 1, '"' :: text => ⟨.ok [], .ok text⟩
  | _ + 1, ['\\'] => .stop .truncated
  | fuel + 1, '\\' :: 'u' :: text =>
    match unit text with
    | .error cause => .stop cause
    | .ok (code, text) =>
      if isTrailing code then (textValue fuel text).spoilt
      else if isLeading code then
        match text with
        | '\\' :: 'u' :: text' =>
          match unit text' with
          | .error cause => .stop cause
          | .ok (code', text'') =>
            if isTrailing code' then (textValue fuel text'').cons (joinPair code code')
            else (textValue fuel text).spoilt
        | [] | ['\\'] => .stop .truncated
        | _ => (textValue fuel text).spoilt
      else (textValue fuel text).cons (Char.ofNat code)
  | fuel + 1, '\\' :: c :: text =>
    match simpleEscape? c with
    | some c => (textValue fuel text).cons c
    | none => .stop .malformed
  | fuel + 1, c :: text =>
    if c.toNat < 0x20 then .stop .malformed else (textValue fuel text).cons c

/-- The node of a text value behind its opening quote. -/
def textNode (fuel : Nat) (text : List Char) : Json × Rest :=
  let value := textValue fuel text
  match value.rest, value.kept with
  | .ok rest, .ok chars => (.string (some (String.ofList chars)), .ok rest)
  | .ok rest, .error _ => (.string none, .ok rest)
  | .error skipped, .ok _ => (.broken skipped skipped, .error skipped)
  | .error skipped, .error kept => (.broken kept skipped, .error skipped)

/-- A decimal digit. -/
def isDigit (c : Char) : Bool := '0' ≤ c && c ≤ '9'

/-- The digits at the front of a text, and the rest. -/
def digits (text : List Char) : List Char × List Char := text.span isDigit

/-- The value of digits. -/
def naturalOf (text : List Char) : Nat :=
  text.foldl (fun n c => n * 10 + (c.toNat - '0'.toNat)) 0

/-- The greatest number of 64 bits. -/
def maxWord : Nat := UInt64.size - 1

/-- The leading digits whose value, behind `start`, fits 64 bits, and how many digits are left. -/
def leadingDigits (start : Nat) : List Char → Nat × Nat
  | [] => (start, 0)
  | c :: rest =>
    let next := start * 10 + (c.toNat - '0'.toNat)
    if maxWord < next then (start, rest.length + 1) else leadingDigits next rest

/-- A power of ten as a double. -/
def powerOfTen? (exponent : Nat) : Option Number.Binary64 := Number.Binary64.ofNat? (Number.tenTo exponent)

/-- The greatest power of ten that is a double. -/
def maxPowerOfTen : Nat := 308

/-- A double scaled down by a power of ten, in steps of at most the greatest one. -/
def scaleDown : (fuel : Nat) → Number.Binary64 → Nat → Option Number.Binary64
  | 0, value, _ => some value
  | fuel + 1, value, exponent =>
    if exponent ≤ maxPowerOfTen then (powerOfTen? exponent).bind value.div?
    else if value.isZero then some value
    else do
      let value ← (powerOfTen? maxPowerOfTen).bind value.div?
      scaleDown fuel value (exponent - maxPowerOfTen)

/-- `significand * 10 ^ exponent` as a double, each step rounded, or `none` when it is out of range. -/
def scaled? (significand : Nat) (exponent : Int) : Option Number.Binary64 := do
  let value ← Number.Binary64.ofNat? significand
  if exponent < 0 then scaleDown 4 value exponent.natAbs
  else if exponent ≤ maxPowerOfTen then (powerOfTen? exponent.natAbs).bind value.mul?
  else if value.isZero then some value
  else none

/-- The greatest exponent that is told apart from larger ones. -/
def maxExponent : Nat := 2147483647

/-- The value of a number with a fraction or an exponent, or with too many digits. Digits that do not
fit 64 bits are dropped. -/
def floating? (whole fraction : List Char) (exponent : Option (Bool × List Char)) :
    Option Number.Binary64 :=
  let (significand, dropped) := leadingDigits 0 whole
  let (significand, unread) := leadingDigits significand fraction
  let start : Int := (dropped : Int) - (fraction.length - unread : Nat)
  match exponent with
  | none => scaled? significand start
  | some (negative, digits) =>
    let size := naturalOf digits
    if maxExponent < size then
      if significand != 0 && !negative then none else Number.Binary64.ofNat? 0
    else scaled? significand (if negative then start - size else start + size)

/-- The value of a number. -/
def numberValue? (negative : Bool) (whole : List Char) (fraction : Option (List Char))
    (exponent : Option (Bool × List Char)) : Option JsonNumber :=
  let value := naturalOf whole
  if fraction.isNone && exponent.isNone && value ≤ maxWord && !(negative && value == 0)
      && (!negative || value ≤ Number.twoTo 63) then
    some (if negative then .negative value else .natural value)
  else (floating? whole (fraction.getD []) exponent).map (.floating negative)

/-- A number that breaks off in front of a text. A reader that passes over it does not tell the end
of the text from a wrong character. -/
def brokenNumber (text : List Char) : Json × Rest :=
  (.broken (breakAt text) .malformed, .error .malformed)

/-- Reads the exponent of a number and finishes it. -/
def numberExponent (negative : Bool) (whole : List Char) (fraction : Option (List Char))
    (text : List Char) : Json × Rest :=
  let finish := fun (expNegative : Bool) (text : List Char) =>
    match digits text with
    | ([], _) => brokenNumber text
    | (size, rest) =>
      (.number (numberValue? negative whole fraction (some (expNegative, size))), .ok rest)
  match text with
  | 'e' :: '+' :: rest | 'E' :: '+' :: rest => finish false rest
  | 'e' :: '-' :: rest | 'E' :: '-' :: rest => finish true rest
  | 'e' :: rest | 'E' :: rest => finish false rest
  | rest => (.number (numberValue? negative whole fraction none), .ok rest)

/-- Reads a number behind its sign. -/
def numberNode (negative : Bool) (text : List Char) : Json × Rest :=
  match digits text with
  | ([], _) => brokenNumber text
  | (whole, rest) =>
    if whole.head? == some '0' && whole.length != 1 then
      (.broken .malformed .malformed, .error .malformed)
    else match rest with
      | '.' :: rest =>
        match digits rest with
        | ([], _) => brokenNumber rest
        | (fraction, rest) => numberExponent negative whole (some fraction) rest
      | rest => numberExponent negative whole none rest

mutual
/-- Reads a node. Two steps for every character of the text are more than enough. -/
def node : (fuel : Nat) → List Char → Json × Rest
  | 0, _ => (.broken .truncated .truncated, .error .truncated)
  | fuel + 1, text =>
    match skipSpace text with
    | [] => (.broken .truncated .truncated, .error .truncated)
    | 'n' :: text => word .null "ull".toList text
    | 't' :: text => word (.boolean true) "rue".toList text
    | 'f' :: text => word (.boolean false) "alse".toList text
    | '"' :: text => textNode fuel text
    | '-' :: text => numberNode true text
    | '[' :: text =>
      match skipSpace text with
      | ']' :: rest => (.array [] none, .ok rest)
      | [] => (.array [] (some .truncated), .error .truncated)
      | text =>
        match items fuel text with
        | (values, .ok rest) => (.array values none, .ok rest)
        | (values, .error cause) => (.array values (some cause), .error cause)
    | '\x7b' :: text =>
      match skipSpace text with
      | '\x7d' :: rest => (.object [] none, .ok rest)
      | '"' :: text =>
        match members fuel text with
        | (entries, .ok rest) => (.object entries none, .ok rest)
        | (entries, .error cause) => (.object entries (some cause), .error cause)
      | text => (.object [] (some (breakAt text)), .error (breakAt text))
    | c :: text =>
      if isDigit c then numberNode false (c :: text)
      else (.broken .malformed .malformed, .error .malformed)

/-- Reads the items of a list up to its end. -/
def items : (fuel : Nat) → List Char → List Json × Rest
  | 0, _ => ([], .error .truncated)
  | fuel + 1, text =>
    match node fuel text with
    | (value, .error cause) => ([value], .error cause)
    | (value, .ok text) =>
      match skipSpace text with
      | ',' :: text =>
        match items fuel text with
        | (values, rest) => (value :: values, rest)
      | ']' :: rest => ([value], .ok rest)
      | text => ([value], .error (breakAt text))

/-- Reads the members of an object up to its end, from behind the first quote. -/
def members : (fuel : Nat) → List Char → List (Json × Json) × Rest
  | 0, _ => ([], .error .truncated)
  | fuel + 1, text =>
    match textNode fuel text with
    | (key, .error cause) => ([(key, key)], .error cause)
    | (key, .ok text) =>
      match skipSpace text with
      | ':' :: text =>
        match node fuel text with
        | (value, .error cause) => ([(key, value)], .error cause)
        | (value, .ok text) =>
          match skipSpace text with
          | ',' :: text =>
            match skipSpace text with
            | '"' :: text =>
              match members fuel text with
              | (entries, rest) => ((key, value) :: entries, rest)
            | text => ([(key, value)], .error (breakAt text))
          | '\x7d' :: rest => ([(key, value)], .ok rest)
          | text => ([(key, value)], .error (breakAt text))
      | text => ([(key, .broken (breakAt text) (breakAt text))], .error (breakAt text))
end

end EntityGen.Document.Json

namespace EntityGen.Document

/-- Reads a text as JSON, as far as it can be read. -/
def JsonText.ofString (text : String) : JsonText :=
  let chars := text.toList
  match Json.node (2 * chars.length + 2) chars with
  | (root, .ok rest) => ⟨root, !(Json.skipSpace rest).isEmpty⟩
  | (root, .error _) => ⟨root, false⟩

end EntityGen.Document
