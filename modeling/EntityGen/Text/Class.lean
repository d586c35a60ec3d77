import EntityGen.Text.Class.Table

/-!
# Character classes

The classes that naming, quoting and blank tests rest on. ASCII is decided by comparison and the rest
by the range tables.
-/
namespace EntityGen.Text

/-- Whether a code point lies in one of the ascending ranges. -/
def inRanges (code : Nat) : List (Nat × Nat) → Bool
  | [] => false
  | (low, high) :: rest => if code < low then false else code ≤ high || inRanges code rest

/-- An ASCII digit. -/
def isAsciiDigit (c : Char) : Bool := '0' ≤ c && c ≤ '9'

/-- An ASCII lower-case letter. -/
def isAsciiLower (c : Char) : Bool := 'a' ≤ c && c ≤ 'z'

/-- An ASCII upper-case letter. -/
def isAsciiUpper (c : Char) : Bool := 'A' ≤ c && c ≤ 'Z'

/-- An ASCII letter. -/
def isAsciiLetter (c : Char) : Bool := isAsciiLower c || isAsciiUpper c

/-- An ASCII letter or digit. -/
def isAsciiAlphanumeric (c : Char) : Bool := isAsciiLetter c || isAsciiDigit c

/-- A letter or a number; everything else separates words. -/
def isAlphanumeric (c : Char) : Bool :=
  if c.toNat < 128 then isAsciiAlphanumeric c else inRanges c.toNat Class.alphanumericRanges

/-- A lower-case character. -/
def isLowercase (c : Char) : Bool :=
  if c.toNat < 128 then isAsciiLower c else inRanges c.toNat Class.lowercaseRanges

/-- A character that has, or is, a case form. -/
def isCased (c : Char) : Bool :=
  if c.toNat < 128 then isAsciiLetter c else inRanges c.toNat Class.casedRanges

/-- A character that casing looks past, such as an apostrophe or an accent. -/
def isCaseIgnorable (c : Char) : Bool :=
  if c.toNat < 128 then ['\'', '.', ':', '^', '\x60'].contains c
  else inRanges c.toNat Class.caseIgnorableRanges

/-- A mark that attaches to the character before it. -/
def isExtender (c : Char) : Bool := inRanges c.toNat Class.extenderRanges

/-- A character that shows as itself when a text is quoted. -/
def isPrintable (c : Char) : Bool :=
  if c.toNat < 128 then ' ' ≤ c && c ≤ '~' else !inRanges c.toNat Class.unprintableRanges

/-- White space, line ends included. -/
def isBlank (c : Char) : Bool :=
  let code := c.toNat
  (9 ≤ code && code ≤ 13) || code == 0x20 || code == 0x85 || code == 0xA0 || code == 0x1680
    || (0x2000 ≤ code && code ≤ 0x200A) || code == 0x2028 || code == 0x2029 || code == 0x202F
    || code == 0x205F || code == 0x3000

/-- Without blanks at either end. -/
def trim (text : String) : String :=
  String.ofList (((text.toList.dropWhile isBlank).reverse.dropWhile isBlank).reverse)

/-- Nothing is left after trimming. -/
def isAllBlank (text : String) : Bool := text.toList.all isBlank

/-- The lower-case form of an ASCII letter; any other character is kept. -/
def asciiLower (c : Char) : Char := if isAsciiUpper c then Char.ofNat (c.toNat + 32) else c

/-- Equality up to the case of ASCII letters. -/
def eqIgnoringAsciiCase (a b : String) : Bool :=
  a.toList.map asciiLower == b.toList.map asciiLower

end EntityGen.Text
