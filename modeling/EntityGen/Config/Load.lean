import EntityGen.Config.Document
import EntityGen.Document.Yaml.Node
import EntityGen.FileAccess

/-!
# Loading configurations

A configuration is loaded from the text of a YAML document or from a file, and is checked at once.
-/
namespace EntityGen.Config

open Document

/-- The configuration of a YAML document. -/
def ofYaml (text : String) : Except Fault Config := do
  let config ← ((Yaml.YamlText.ofString text).read read).1.mapError .yaml
  config.check
  return config

/-- The configuration of a file. -/
def load {m : Type → Type} [Monad m] (files : FileAccess m) (path : Path) :
    m (Except Fault Config) := do
  match ← files.read path with
  | .error reason => return .error (.io reason)
  | .ok text => return ofYaml text

end EntityGen.Config
