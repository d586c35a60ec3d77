import EntityGen.Fault
import EntityGen.Options
import EntityGen.Path
import EntityGen.Text.Class

/-!
# Configuration

What a configuration file holds, the values that stand in for what it leaves out, and the rules that
it must keep.
-/
namespace EntityGen

/-- Where generated sources go. -/
structure OutputConfig where
  directory : Path
  /-- The package of generated classes. -/
  packageBase : String
  deriving DecidableEq, Repr

/-- How a run behaves. -/
structure RuntimeConfig where
  workers : Option Nat := none
  /-- Start nothing more once an entity has failed. -/
  failFast : Bool := false
  deriving DecidableEq, Repr

/-- A configuration file. -/
structure Config where
  /-- Where the schema document lies. -/
  schema : Path
  output : OutputConfig
  generation : Options
  runtime : RuntimeConfig
  deriving DecidableEq, Repr

/-- The directory of generated sources when none is given. -/
def OutputConfig.defaultDirectory : Path := ⟨"generated"⟩

namespace RuntimeConfig

/-- The number of workers when none is given. -/
def defaultWorkers : Nat := 4

/-- The number of workers. -/
def workerCount (runtime : RuntimeConfig) : Nat := runtime.workers.getD defaultWorkers

/-- The greatest number of workers that tuning chooses. -/
def maxTunedWorkers : Nat := 32

/-- Fills in the number of workers from the number of processor cores, if none is given. -/
def tuned (runtime : RuntimeConfig) (cores : Nat) : RuntimeConfig :=
  { runtime with workers := some (runtime.workers.getD (min (max cores 1) maxTunedWorkers)) }

end RuntimeConfig

namespace Config

/-- The pieces between the dots of a text. -/
def segments : List Char → List (List Char)
  | [] => [[]]
  | c :: rest =>
    if c == '.' then [] :: segments rest
    else match segments rest with
      | [] => [[c]]
      | segment :: more => (c :: segment) :: more

/-- A letter, digit or underscore. -/
def isSegmentChar (c : Char) : Bool := Text.isAsciiAlphanumeric c || c == '_'

/-- A segment begins with a letter or an underscore. -/
def isSegment : List Char → Bool
  | [] => false
  | c :: rest => (Text.isAsciiLetter c || c == '_') && rest.all isSegmentChar

/-- A package is a dotted list of segments. -/
def isPackage (text : String) : Bool := (segments text.toList).all isSegment

/-- Checks a package name. -/
def checkPackage (text : String) : Except Fault Unit :=
  if text.isEmpty then .error (.config "output.package_base is required")
  else if isPackage text then .ok ()
  else .error (.config ("output.package_base '" ++ text ++ "' is not a valid package name"))

/-- Checks the rules of a configuration. -/
def check (config : Config) : Except Fault Unit := do
  if config.schema.text.isEmpty then .error (.config "schema is required")
  if config.output.directory.text.isEmpty then .error (.config "output.dir cannot be empty")
  checkPackage config.output.packageBase
  if config.runtime.workers == some 0 then
    .error (.config "runtime.workers must be at least 1")

/-- Fills in what was left out from the number of processor cores. -/
def tuned (config : Config) (cores : Nat) : Config :=
  { config with runtime := config.runtime.tuned cores }

end Config

end EntityGen
