import EntityGen.Config

/-!
# Settings of a run

The part of a configuration that planning, rendering and running look at.
-/
namespace EntityGen

/-- The settings of a run. -/
structure Settings where
  /-- How many entities are generated at a time. -/
  workers : Nat := RuntimeConfig.defaultWorkers
  failFast : Bool := false
  packageBase : String
  options : Options := {}
  deriving DecidableEq, Repr

namespace Settings

/-- The settings of a configuration. -/
def ofConfig (config : Config) : Settings where
  workers := config.runtime.workerCount
  failFast := config.runtime.failFast
  packageBase := config.output.packageBase
  options := config.generation

/-- The settings with at least one worker. -/
def withWorkers (settings : Settings) (count : Nat) : Settings :=
  { settings with workers := max count 1 }

/-- The package segment of a database: its ASCII letters, digits and underscores in lower case. -/
def databaseSegment (database : String) : List Char :=
  (database.toList.filter Config.isSegmentChar).map Text.asciiLower

/-- The package of a database's classes. -/
def packageFor (settings : Settings) (database : String) : String :=
  if !settings.options.packageIncludesDatabase then settings.packageBase
  else match databaseSegment database with
    | [] => settings.packageBase
    | c :: rest =>
      let segment := if Text.isAsciiDigit c then '_' :: c :: rest else c :: rest
      settings.packageBase ++ "." ++ String.ofList segment

end Settings

end EntityGen
