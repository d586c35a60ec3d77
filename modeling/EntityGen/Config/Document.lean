import EntityGen.Config
import EntityGen.Document.Json.Writer
import EntityGen.Schema.Document

/-!
# Configuration documents

How a configuration is read from the nodes of a document, and how it is written as JSON.
-/
namespace EntityGen

open Document

section Reading

variable {ν : Type} (format : Format ν)

namespace Options

/-- Options of which some are read. -/
structure Draft where
  read : List String := []
  options : Options := {}

/-- How options are read. -/
def shape : RecordShape ν Draft Options where
  name := "GenerationOptions"
  fields := table.map fun (name, _, put) =>
    Format.field name false (·.read.contains name) format.flag
      fun draft value => ⟨name :: draft.read, put draft.options value⟩
  start := {}
  finish draft := .ok draft.options

end Options

namespace OutputConfig

/-- An output section of which some fields are read. -/
structure Draft where
  directory : Option Path := none
  packageBase : Option String := none

/-- How the output section is read. -/
def shape : RecordShape ν Draft OutputConfig where
  name := "OutputConfig"
  fields :=
    [Format.field "dir" false (·.directory.isSome)
        (fun node => do return Path.mk (← format.text "path string" node))
        fun draft value => { draft with directory := some value },
      Format.field "package_base" true (·.packageBase.isSome) (format.text "a string")
        fun draft value => { draft with packageBase := some value }]
  start := {}
  finish draft := do
    return {
      directory := draft.directory.getD defaultDirectory
      packageBase := ← need "package_base" draft.packageBase }

end OutputConfig

namespace RuntimeConfig

/-- A runtime section of which some fields are read. -/
structure Draft where
  workers : Option (Option Nat) := none
  failFast : Option Bool := none

/-- The greatest number of workers that can be written. -/
def maxWorkers : Nat := UInt64.size - 1

/-- How the runtime section is read. -/
def shape : RecordShape ν Draft RuntimeConfig where
  name := "RuntimeConfig"
  fields :=
    [format.optionalField "workers" (·.workers.isSome) (format.count "usize" maxWorkers)
        fun draft value => { draft with workers := some value },
      Format.field "fail_fast" false (·.failFast.isSome) format.flag
        fun draft value => { draft with failFast := some value }]
  start := {}
  finish draft := .ok ⟨draft.workers.getD none, draft.failFast.getD false⟩

end RuntimeConfig

namespace Config

/-- A configuration of which some sections are read. -/
structure Draft where
  schema : Option Path := none
  output : Option OutputConfig := none
  generation : Option Options := none
  runtime : Option RuntimeConfig := none

/-- How a configuration is read. -/
def shape : RecordShape ν Draft Config where
  name := "Config"
  fields :=
    [Format.field "schema" true (·.schema.isSome)
        (fun node => do return Path.mk (← format.text "path string" node))
        fun draft value => { draft with schema := some value },
      Format.field "output" true (·.output.isSome) ((OutputConfig.shape format).read format)
        fun draft value => { draft with output := some value },
      Format.field "generation" false (·.generation.isSome) ((Options.shape format).read format)
        fun draft value => { draft with generation := some value },
      Format.field "runtime" false (·.runtime.isSome) ((RuntimeConfig.shape format).read format)
        fun draft value => { draft with runtime := some value }]
  start := {}
  finish draft := do
    return {
      schema := ← need "schema" draft.schema
      output := ← need "output" draft.output
      generation := draft.generation.getD {}
      runtime := draft.runtime.getD {} }

/-- Reads a configuration. -/
def read (node : ν) : Reading Config := (shape format).read format node

end Config

end Reading

/-- The options as JSON. -/
def Options.toJson (options : Options) : Json :=
  .ofMembers (table.map fun (name, get, _) => (name, .boolean (get options)))

/-- The configuration as JSON. -/
def Config.toJson (config : Config) : Json :=
  .ofMembers
    [("schema", .ofString config.schema.text),
      ("output", .ofMembers
        [("dir", .ofString config.output.directory.text),
          ("package_base", .ofString config.output.packageBase)]),
      ("generation", config.generation.toJson),
      ("runtime", .ofMembers
        (optionalMember "workers" .ofNat config.runtime.workers
          ++ [("fail_fast", .boolean config.runtime.failFast)]))]

end EntityGen
