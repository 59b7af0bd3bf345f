import OperatorConfig.Failure
import OperatorConfig.Json.Reading
import OperatorConfig.Schema.Decode
import OperatorConfig.Settings.Tree
import OperatorConfig.Yaml.Reading

/-!
# Loading the default settings

The defaults are a document in JSON or YAML. A document that is JSON is taken as the value it is. Any
other is read as YAML: nothing, or null, stands for no settings at all, and any value but a mapping is
refused. The settings are then decoded from the value in the same way for both.
-/

namespace OperatorConfig

inductive FileFault where
  | absent
  | directory
  | denied
  | other (text : String)
deriving DecidableEq

def FileFault.message : FileFault → String
  | .absent => "No such file or directory (os error 2)"
  | .directory => "Is a directory (os error 21)"
  | .denied => "Permission denied (os error 13)"
  | .other text => text

inductive LoadFault where
  | file (fault : FileFault)
  | yaml (fault : Yaml.Fault)
  | conversion (obstacle : Yaml.Value.Obstacle)
  | notMapping
  | form (mismatch : Schema.Mismatch)
deriving DecidableEq

def LoadFault.message : LoadFault → String
  | .file fault => fault.message
  | .yaml fault => fault.message
  | .conversion obstacle => obstacle.message
  | .notMapping => "default configuration must be a mapping at the top level"
  | .form mismatch => mismatch.message

/-- What stands for the name of a document that is no file. -/
def inMemory : String := "<memory>"

namespace Settings

def objectOfYaml (value : Yaml.Value) : Except LoadFault Json := do
  let json ←
    match value with
    | .null => pure (.object [])
    | value => value.toJson.mapError .conversion
  match json with
  | .object members => return (Json.object members).canonical
  | _ => throw .notMapping

def valueOfYaml (document : List UInt8) : Except LoadFault Json := do
  let value ← (Yaml.ofBytes .values document).mapError .yaml
  objectOfYaml value

def valueOf (document : List UInt8) : Except LoadFault Json :=
  match Json.ofBytes document with
  | .ok value => .ok value
  | .error _ => valueOfYaml document

/-- The settings that a value holds. -/
def ofValue (value : Json) : Except LoadFault Settings :=
  (Schema.decode value).mapError .form

def ofDocument (document : List UInt8) : Except LoadFault Settings := do
  ofValue (← valueOf document)

/-- The settings of the document with the given name. -/
def load (path : String) (content : Except FileFault (List UInt8)) : Except Failure Settings :=
  match content.mapError .file >>= ofDocument with
  | .ok settings => .ok settings
  | .error fault => .error (.load path fault.message)

def loadBytes (document : List UInt8) : Except Failure Settings :=
  load inMemory (.ok document)

end Settings

end OperatorConfig
