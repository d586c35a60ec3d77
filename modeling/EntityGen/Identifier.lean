import EntityGen.Text.Casing
import EntityGen.Text.Quoted

/-!
# Identifiers

When a declared name is usable, and the class, property and Java names derived from it. Derivation
works on words: a word is a run of letters and numbers, and everything else separates words.
-/
namespace EntityGen.Identifier

open EntityGen.Text

/-- Why a declared name is not usable. -/
inductive Flaw
  | blank
  | nullByte (name : String)
  | tooLong (name : String)
  deriving DecidableEq, Repr

/-- The greatest size of a name in bytes. -/
def maxBytes : Nat := 128

/-- The text that describes a flaw. -/
def Flaw.message : Flaw → String
  | blank => "name cannot be empty"
  | nullByte name => "name contains a null byte: " ++ quoted name
  | tooLong name =>
    "name exceeds maximum length of " ++ toString maxBytes ++ " bytes (got "
      ++ toString name.utf8ByteSize ++ " bytes): " ++ quoted name

/-- The first flaw of a name: blank, then a null byte, then its size. -/
def flaw? (name : String) : Option Flaw :=
  if isAllBlank name then some .blank
  else if name.toList.contains '\x00' then some (.nullByte name)
  else if maxBytes < name.utf8ByteSize then some (.tooLong name)
  else none

/-- A name is shouted when it has separators and no lower-case letter, as in `PERSON_ADDRESS`. -/
def isShouted (name : List Char) : Bool :=
  name.any (fun c => !isAlphanumeric c) && !name.any isLowercase

/-- Joins the words of a name, each with its first character in upper case. The other characters are
kept, or put in lower case when `shouted`. `fresh` says that the next character begins a word. -/
def joinWords (shouted : Bool) : (fresh : Bool) → List Char → List Char
  | _, [] => []
  | fresh, c :: rest =>
    if isAlphanumeric c then
      (if fresh then upper c else if shouted then lower c else [c]) ++ joinWords shouted false rest
    else joinWords shouted true rest

/-- The class name of a declared name, as characters. -/
def classChars (name : List Char) : List Char := joinWords (isShouted name) true name

/-- The class name of a declared name: `person_address` becomes `PersonAddress`. -/
def className (name : String) : String := String.ofList (classChars name.toList)

/-- Puts the first character in lower case. -/
def uncapitalised : List Char → List Char
  | [] => []
  | c :: rest => lower c ++ rest

/-- The property name of a declared name, as characters. A class name without a lower-case letter is
put in lower case as a whole. -/
def propertyChars (name : List Char) : List Char :=
  let chars := classChars name
  if chars.any isLowercase then uncapitalised chars else lowercaseFrom [] chars

/-- The property name of a declared name: `first_name` becomes `firstName`. -/
def propertyName (name : String) : String := String.ofList (propertyChars name.toList)

/-- Puts the first character in upper case. -/
def capitalised (name : String) : String :=
  match name.toList with
  | [] => ""
  | c :: rest => String.ofList (upper c ++ rest)

/-- Words that Java does not allow as a name. -/
def reserved : List String :=
  ["abstract", "assert", "boolean", "break", "byte", "case", "catch", "char", "class", "const",
    "continue", "default", "do", "double", "else", "enum", "extends", "false", "final",
    "finally", "float", "for", "goto", "if", "implements", "import", "instanceof", "int",
    "interface", "long", "native", "new", "null", "package", "private", "protected", "public",
    "return", "short", "static", "strictfp", "super", "switch", "synchronized", "this", "throw",
    "throws", "transient", "true", "try", "var", "void", "volatile", "while", "_"]

/-- Makes a derived name usable in Java: a reserved word gets an underscore behind it, and a name
that is empty or begins with an ASCII digit gets one in front. -/
def javaName (name : String) : String :=
  if reserved.contains name then name ++ "_"
  else match name.toList with
    | c :: _ => if isAsciiDigit c then "_" ++ name else name
    | [] => "_" ++ name

/-- The name of the class generated for a table or view. -/
def javaClass (name : String) : String := javaName (className name)

/-- The name of the property generated for a column. -/
def javaProperty (name : String) : String := javaName (propertyName name)

end EntityGen.Identifier
