import EntityGen.Document.Json.Text
import EntityGen.Document.Yaml.Node
import EntityGen.Fault
import EntityGen.FileAccess
import EntityGen.Schema.Document

/-!
# Loading schemas

A schema is loaded from the text of a JSON or YAML document or from a file. Reading notes warnings,
which are given back whether the document is accepted or not.
-/
namespace EntityGen

open Document

/-- Why a text is not accepted as a schema. -/
inductive SchemaRejection
  | json (failure : Failure)
  | yaml (failure : Failure)
  /-- The document does not name its database. -/
  | unnamed
  deriving DecidableEq, Repr

/-- The fault of a rejection. -/
def SchemaRejection.fault : SchemaRejection → Fault
  | json failure => .json failure
  | yaml failure => .schema (failure.message Text.quoted true)
  | unnamed => .schema "database name is required"

/-- Why a file is not accepted as a schema. -/
inductive SchemaLoadError
  | unreadable (reason : String)
  | rejected (path : Path) (cause : SchemaRejection)
  deriving DecidableEq, Repr

/-- The fault of a file that is not accepted; it names the file unless that could not be read. -/
def SchemaLoadError.fault : SchemaLoadError → Fault
  | unreadable reason => .io reason
  | rejected path cause => .schema (path.text ++ ": " ++ cause.fault.message)

namespace Schema

/-- A document must name its database. -/
def checkName (schema : Schema) : Except SchemaRejection Schema :=
  if Text.isAllBlank schema.name then .error .unnamed else .ok schema

/-- The schema of a JSON document. -/
def ofJson (text : String) : Except SchemaRejection Schema × List Warning :=
  let (result, warnings) := ((JsonText.ofString text).read (read Json.format)).outcome
  ((result.mapError .json).bind checkName, warnings)

/-- The schema of a YAML document. -/
def ofYaml (text : String) : Except SchemaRejection Schema × List Warning :=
  let (result, warnings) := (Yaml.YamlText.ofString text).read read
  ((result.mapError .yaml).bind checkName, warnings)

/-- The file holds JSON, by its extension; any other file holds YAML. -/
def isJsonFile (path : Path) : Bool :=
  path.extension?.any (Text.eqIgnoringAsciiCase "json")

/-- The schema of a file. -/
def load {m : Type → Type} [Monad m] (files : FileAccess m) (path : Path) :
    m (Except SchemaLoadError Schema × List Warning) := do
  match ← files.read path with
  | .error reason => return (.error (.unreadable reason), [])
  | .ok text =>
    let (result, warnings) := if isJsonFile path then ofJson text else ofYaml text
    return (result.mapError (.rejected path), warnings)

end Schema

end EntityGen
