import EntityGen.Path

/-!
# Command arguments

How the words after the command's name are understood. The command's own options stand before the
subcommand and the subcommand's behind it, each at most once. The first word that cannot be understood
ends the reading.
-/
namespace EntityGen.Command

/-- What the generate command is asked for beyond the configuration. -/
structure GenerateOptions where
  schema : Option Path := none
  outputDirectory : Option Path := none
  workers : Option Nat := none
  failFast : Bool := false
  /-- Render everything and write nothing. -/
  dryRun : Bool := false
  deriving DecidableEq, Repr

/-- What is to be done. -/
inductive Action
  | generate (options : GenerateOptions)
  /-- Check the schema, up to the first breach or for all of them. -/
  | validate (all : Bool)
  /-- Print the Java types of column kinds. -/
  | types
  deriving DecidableEq, Repr

/-- A command with its options. -/
structure Invocation where
  config : Path
  outputJson : Bool
  logFormat : String
  verbosity : String
  action : Action
  deriving DecidableEq, Repr

/-- What the arguments amount to. -/
inductive Request
  | run (invocation : Invocation)
  | version
  | help
  /-- The arguments cannot be understood. -/
  | misuse
  deriving DecidableEq, Repr

/-- What an option takes. -/
inductive OptionForm
  | flag
  | text
  /-- A path, which is not empty. -/
  | path
  | count
  /-- The option answers on its own, and what follows is not read. -/
  | answer (request : Request)

/-- An option of the command or of a subcommand. -/
structure OptionSpec where
  name : String
  /-- The letter that stands for the name. -/
  letter : Option Char := none
  form : OptionForm

/-- The options given so far, each with its value; a flag has an empty one. -/
abbrev Given := List (String × String)

/-- The greatest count that an option takes. -/
def maxCount : Nat := UInt64.size - 1

/-- The number that digits spell, one that is too great for a count aside. -/
def countOfDigits? (digits : List Char) : Option Nat :=
  if digits.isEmpty || !digits.all Char.isDigit then none
  else
    let value := digits.foldl (fun n c => 10 * n + (c.toNat - '0'.toNat)) 0
    if value ≤ maxCount then some value else none

/-- A count: digits, with a plus sign in front or none. -/
def count? (text : String) : Option Nat :=
  match text.toList with
  | '+' :: digits => countOfDigits? digits
  | digits => countOfDigits? digits

/-- Whether a value suits the option. -/
def OptionForm.accepts (form : OptionForm) (value : String) : Bool :=
  match form with
  | path => !value.isEmpty
  | count => (count? value).isSome
  | flag | text | answer _ => true

/-- A word as options see it. -/
inductive Word
  /-- An option by its name, with a value attached by an equals sign if there is one. -/
  | long (name : String) (value : Option String)
  /-- An option by its letter, and the characters behind it. -/
  | short (letter : Char) (rest : List Char)
  /-- No option: a subcommand, or a value. -/
  | plain (text : String)
  /-- Two dashes: no option follows. -/
  | dashes

/-- Tells options from other words. A single dash is no option. -/
def Word.ofString (text : String) : Word :=
  match text.toList with
  | ['-', '-'] => dashes
  | '-' :: '-' :: rest =>
    let name := String.ofList (rest.takeWhile (· != '='))
    match rest.dropWhile (· != '=') with
    | [] => long name none
    | _ :: value => long name (some (String.ofList value))
  | '-' :: letter :: rest => short letter rest
  | _ => plain text

/-- The value in the characters behind an option's letter; an equals sign may stand in between. -/
def attachedValue? : List Char → Option String
  | [] => none
  | '=' :: value => some (String.ofList value)
  | value => some (String.ofList value)

/-- The option of a word, and the value attached to it. -/
def findOption? (specs : List OptionSpec) : Word → Option (OptionSpec × Option String)
  | .long name value => (specs.find? (·.name == name)).map (·, value)
  | .short letter rest => (specs.find? (·.letter == some letter)).map (·, attachedValue? rest)
  | .plain _ | .dashes => none

/-- Adds a given option, unless it is given already or the value does not suit it. -/
def give (given : Given) (spec : OptionSpec) (value : String) : Except Request Given :=
  if (given.lookup spec.name).isSome || !spec.form.accepts value then .error .misuse
  else .ok ((spec.name, value) :: given)

/-- What a word does to the options given so far. -/
inductive WordStep
  | given (options : Given)
  /-- The next word is the option's value. -/
  | awaits (spec : OptionSpec)
  /-- The word is no option. -/
  | other

/-- Reads a word where an option may stand. -/
def readWord (specs : List OptionSpec) (given : Given) (word : Word) : Except Request WordStep :=
  match word with
  | .plain _ | .dashes => .ok .other
  | option =>
    match findOption? specs option with
    | none => .error .misuse
    | some (spec, attached) =>
      match spec.form, attached, option with
      | .answer _, some _, .long .. => .error .misuse
      | .answer request, _, _ => .error request
      | .flag, none, _ => (give given spec "").map .given
      | .flag, some _, _ => .error .misuse
      | _, some value, _ => (give given spec value).map .given
      | _, none, _ => .ok (.awaits spec)

/-- Reads options up to the first other word; gives them and the words from there on. `pending` is
the option whose value comes next. -/
def readOptions (specs : List OptionSpec) :
    (pending : Option OptionSpec) → Given → List String → Except Request (Given × List String)
  | none, given, [] => .ok (given, [])
  | some _, _, [] => .error .misuse
  | some spec, given, word :: rest =>
    match Word.ofString word with
    | .plain value => do
      let given ← give given spec value
      readOptions specs none given rest
    | _ => .error .misuse
  | none, given, word :: rest => do
    match ← readWord specs given (Word.ofString word) with
    | .given given => readOptions specs none given rest
    | .awaits spec => readOptions specs (some spec) given rest
    | .other => .ok (given, word :: rest)

/-- Asks for the usage text. -/
def helpOption : OptionSpec := ⟨"help", some 'h', .answer .help⟩

/-- The options before the subcommand. -/
def commandOptions : List OptionSpec :=
  [⟨"config", some 'c', .path⟩, ⟨"output-json", none, .flag⟩, ⟨"log-format", none, .text⟩,
    ⟨"verbosity", none, .text⟩, ⟨"version", some 'V', .answer .version⟩, helpOption]

/-- The options of the generate command. -/
def generateOptions : List OptionSpec :=
  [⟨"schema", none, .path⟩, ⟨"output-dir", none, .path⟩, ⟨"workers", none, .count⟩,
    ⟨"fail-fast", none, .flag⟩, ⟨"dry-run", none, .flag⟩, helpOption]

/-- The options of the validate command. -/
def validateOptions : List OptionSpec := [⟨"all", none, .flag⟩, helpOption]

/-- Whether a flag is given. -/
def Given.has (given : Given) (name : String) : Bool := (given.lookup name).isSome

/-- The options of a subcommand, behind which nothing may follow. -/
def readAll (specs : List OptionSpec) (words : List String) : Except Request Given := do
  let (given, rest) ← readOptions specs none [] words
  if rest.isEmpty || rest == ["--"] then return given else .error .misuse

/-- What the help subcommand explains. -/
def helpTopics : List String := ["generate", "validate", "types", "help"]

/-- What the words behind the help subcommand ask for: no topic or one. -/
def readHelp : List String → Request
  | [] => .help
  | [topic] => if helpTopics.contains topic then .help else .misuse
  | _ => .misuse

/-- The action of a subcommand with its words. -/
def readAction (words : List String) : Except Request Action :=
  match words with
  | "generate" :: rest => do
    let given ← readAll generateOptions rest
    return .generate {
      schema := (given.lookup "schema").map Path.mk
      outputDirectory := (given.lookup "output-dir").map Path.mk
      workers := (given.lookup "workers").bind count?
      failFast := given.has "fail-fast"
      dryRun := given.has "dry-run" }
  | "validate" :: rest => do
    let given ← readAll validateOptions rest
    return .validate (given.has "all")
  | "types" :: rest => do
    discard (readAll [helpOption] rest)
    return .types
  | "help" :: topics => .error (readHelp topics)
  | _ => .error .misuse

/-- The configuration file when none is named. -/
def defaultConfig : Path := ⟨"config.yaml"⟩

/-- Reads the words of a command into an invocation, or into the request that ends the reading. -/
def readInvocation (words : List String) : Except Request Invocation := do
  let (given, rest) ← readOptions commandOptions none [] words
  let action ← readAction rest
  return {
    config := ((given.lookup "config").map Path.mk).getD defaultConfig
    outputJson := given.has "output-json"
    logFormat := (given.lookup "log-format").getD "text"
    verbosity := (given.lookup "verbosity").getD "info"
    action }

/-- What the words of a command amount to. -/
def Request.ofWords (words : List String) : Request :=
  match readInvocation words with
  | .ok invocation => .run invocation
  | .error request => request

end EntityGen.Command
