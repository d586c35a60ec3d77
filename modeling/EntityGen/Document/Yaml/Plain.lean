import EntityGen.Document.Yaml.Scalar
import EntityGen.Document.Yaml.Tag
import EntityGen.Number.Shortest

/-!
# Values of scalars

What a scalar stands for. A plain scalar without a tag is a null, a truth value, an integer or a
floating-point number when it is spelt like one, and a text otherwise.
-/
namespace EntityGen.Document.Yaml

/-- The value of a scalar. -/
inductive Value
  | null
  | boolean (value : Bool)
  | integer (value : Int)
  /-- An integer beyond 64 bits. -/
  | wideInteger (value : Int)
  | floating (shown : String)
  | text (value : String)
  deriving DecidableEq, Repr

namespace Value

/-- The value as a message names it. -/
def found : Value → Found
  | null => .unit
  | boolean value => .boolean value
  | integer value => .integer value
  | wideInteger value => .wideInteger value
  | floating shown => .floating shown
  | text value => .text value

end Value

namespace Plain

/-- A spelling of null. -/
def isNull (text : String) : Bool := ["null", "Null", "NULL", "~"].contains text

/-- A truth value. -/
def boolean? (text : String) : Option Bool :=
  if ["true", "True", "TRUE"].contains text then some true
  else if ["false", "False", "FALSE"].contains text then some false
  else none

/-- A sign. -/
def isSign (c : Char) : Bool := c == '+' || c == '-'

/-- The text begins with a sign. -/
def hasSign (text : List Char) : Bool := text.head?.any isSign

/-- Digits with a zero in front, perhaps behind a sign, are a text. -/
def isPaddedDigits (text : List Char) : Bool :=
  let digits := if hasSign text then text.drop 1 else text
  match digits with
  | '0' :: rest => !rest.isEmpty && rest.all isDigit
  | _ => false

/-- A natural number up to a limit in digits of a base. -/
def digits? (base limit : Nat) (text : List Char) : Option Nat := do
  if text.isEmpty then none
  let values ← text.mapM fun c => (hexValue? c).filter (· < base)
  let value := values.foldl (fun n d => n * base + d) 0
  if value ≤ limit then some value else none

/-- The base that a letter behind a zero announces. -/
def base? (c : Char) : Option Nat :=
  if c == 'x' then some 16 else if c == 'o' then some 8 else if c == 'b' then some 2 else none

/-- A natural number up to a limit, in decimal digits or in another base behind its announcement. -/
def natural? (limit : Nat) (text : List Char) : Option Nat :=
  let unsigned := if text.head? == some '+' then text.drop 1 else text
  let based := match unsigned with
    | '0' :: c :: rest => (base? c).bind fun base => digits? base limit rest
    | _ => none
  match based with
  | some value => some value
  | none =>
    if hasSign unsigned || isPaddedDigits text then none else digits? 10 limit unsigned

/-- The magnitude of an integer with a minus sign, up to a limit. -/
def negative? (limit : Nat) (text : List Char) : Option Nat :=
  match text with
  | '-' :: rest =>
    let based := match rest with
      | '0' :: c :: digits => (base? c).bind fun base => digits? base limit digits
      | _ => none
    match based with
    | some value => some value
    | none => if isPaddedDigits text then none else digits? 10 limit rest
  | _ => none

/-- An integer. -/
def integer? (text : List Char) : Option Value :=
  match natural? (Number.twoTo 64 - 1) text, negative? (Number.twoTo 63) text with
  | some value, _ => some (.integer value)
  | none, some magnitude => some (.integer (-magnitude))
  | none, none =>
    match natural? (Number.twoTo 128 - 1) text, negative? (Number.twoTo 127) text with
    | some value, _ => some (.wideInteger value)
    | none, some magnitude => some (.wideInteger (-magnitude))
    | none, none => none

/-- The exponent of a decimal number, from the letter on; no text is zero. -/
def exponent? : List Char → Option Int
  | [] => some 0
  | c :: rest =>
    if c == 'e' || c == 'E' then
      match rest with
      | '-' :: digits => if digits.isEmpty then none else (value? digits).map fun n => -(n : Int)
      | '+' :: digits => if digits.isEmpty then none else (value? digits).map fun n => (n : Int)
      | digits => if digits.isEmpty then none else (value? digits).map fun n => (n : Int)
    else none
where
  /-- The value of digits. -/
  value? (digits : List Char) : Option Nat :=
    if digits.all isDigit then
      some (digits.foldl (fun n c => n * 10 + (c.toNat - '0'.toNat)) 0)
    else none

/-- The greatest place of a first digit, counted from the point, that needs to be looked at. -/
def maxPlaces : Int := 400

/-- The nearest double to `digits * 10 ^ exponent`, if it is in range. -/
def nearest? (digits : List Char) (exponent : Int) : Option Number.Binary64 :=
  let significant := digits.dropWhile (· == '0')
  let places := exponent + significant.length
  if significant.isEmpty || places < -maxPlaces then Number.Binary64.ofNat? 0
  else if maxPlaces < places then none
  else
    let value := significant.foldl (fun n c => n * 10 + (c.toNat - '0'.toNat)) 0
    if exponent < 0 then Number.Binary64.ofRatio? value (Number.tenTo exponent.natAbs)
    else Number.Binary64.ofNat? (value * Number.tenTo exponent.natAbs)

/-- A decimal number without its sign. -/
def decimal? (text : List Char) : Option Number.Binary64 :=
  let (whole, rest) := text.span isDigit
  let (fraction, rest) := match rest with
    | '.' :: rest => rest.span isDigit
    | rest => ([], rest)
  if whole.isEmpty && fraction.isEmpty then none
  else (exponent? rest).bind fun exponent => nearest? (whole ++ fraction) (exponent - fraction.length)

/-- A floating-point number, as a message shows it. -/
def floating? (text : String) : Option String :=
  let chars := text.toList
  let unsigned := if chars.head? == some '+' then chars.drop 1 else chars
  if chars.head? == some '+' && hasSign unsigned then none
  else if [".inf", ".Inf", ".INF"].contains (String.ofList unsigned) then some "inf"
  else if ["-.inf", "-.Inf", "-.INF"].contains text then some "-inf"
  else if [".nan", ".NaN", ".NAN"].contains text then some "NaN"
  else
    let negative := unsigned.head? == some '-'
    (decimal? (if negative then unsigned.drop 1 else unsigned)).map (Number.plainText negative)

/-- The value of a plain scalar. -/
def value (text : String) : Value :=
  if text.isEmpty || isNull text then .null
  else match boolean? text with
    | some value => .boolean value
    | none =>
      match integer? text.toList with
      | some value => value
      | none =>
        match if isPaddedDigits text.toList then none else floating? text with
        | some shown => .floating shown
        | none => .text text

end Plain

/-- The value of a scalar, or the problem that its tag does not allow its text. -/
def scalarValue (tag : Option Tag) (text : String) (style : Style) : Except Problem Value :=
  let refuse (expected : String) : Except Problem Value :=
    .error (.invalidValue (.text text) expected)
  match tag with
  | none => .ok (if style == .plain then Plain.value text else .text text)
  | some tag =>
    if tag == .core "bool" then
      match Plain.boolean? text with
      | some value => .ok (.boolean value)
      | none => refuse "a boolean"
    else if tag == .core "int" then
      match Plain.integer? text.toList with
      | some value => .ok value
      | none => refuse "an integer"
    else if tag == .core "float" then
      match Plain.floating? text with
      | some shown => .ok (.floating shown)
      | none => refuse "a float"
    else if tag == .core "null" then
      if Plain.isNull text then .ok .null else refuse "null"
    else if tag.isLocal && style == .plain then .ok (Plain.value text)
    else .ok (.text text)

end EntityGen.Document.Yaml
