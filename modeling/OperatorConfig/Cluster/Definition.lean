import OperatorConfig.Schema.Encode
import OperatorConfig.Settings.Tree

/-!
# The definition of the custom resource

The document that makes the cluster know the custom resource: its names, the columns in which it is
listed, and the schema of its specification and status. The schema of the specification follows the
shape of the settings that it may override; every field has the value that counts as unset for its
default.
-/

namespace OperatorConfig

/-- What a record is for, if its name does not say it. -/
def Schema.recordAbout (name : String) : Option String :=
  if name = "ImageConfiguration" then
    some "Components that only carry an image reference (ui, s2i, amq)"
  else none

namespace Cluster

open Schema (Shape Fields)

def typed (name : String) : String × Json := ("type", .text name)

def described (about : Option String) : List (String × Json) :=
  (about.map fun about => ("description", Json.text about)).toList

def shapeAbout : Shape → Option String
  | .record name _ => Schema.recordAbout name
  | _ => none

mutual
/-- What the schema says about values of a shape. -/
def shapeSchema : Shape → List (String × Json)
  | .text => [typed "string"]
  | .flag => [typed "boolean"]
  | .integer => [("format", .text "int32"), typed "integer"]
  | .texts => [("items", .object [typed "string"]), typed "array"]
  | .table => [("additionalProperties", .object [typed "string"]), typed "object"]
  | .record _ fields => [("properties", .object (fieldSchemas fields)), typed "object"]
def fieldSchemas : Fields → List (String × Json)
  | .done => []
  | .field key shape rest =>
      let about := described (key.about <|> shapeAbout shape)
      (key.name, .object (("default", shape.encode shape.unset) :: about ++ shapeSchema shape))
        :: fieldSchemas rest
end

def nullable : String × Json := ("nullable", .flag true)

def statusSchema : Json :=
  .object
    [nullable,
      ("properties", .object
        [("databaseNeedsUpgrade", .object
            [("default", .flag false),
              ("description", .text "Whether the managed database must be upgraded before rollout"),
              typed "boolean"]),
          ("lastResolutionTime", .object
            [("description", .text "RFC 3339 time of the last resolution attempt"), nullable,
              typed "string"]),
          ("message", .object [nullable, typed "string"]),
          ("phase", .object
            [("description", .text "Outcome of the last configuration resolution"),
              ("enum", .texts ["Resolved", "ResolutionFailed"]), nullable, typed "string"]),
          ("upgradeDecision", .object
            [("description", .text "`NoUpgrade`, `UpgradeNeeded` or `Undetermined`"), nullable,
              typed "string"])]),
      typed "object"]

def specificationAbout : String :=
  "A Syndesis installation.\n\n"
    ++ "The spec has the shape of the `syndesis` subtree of the resolved configuration; "
    ++ "every field it sets overrides the operator defaults."

def specificationSchema : Json :=
  .object (described (some specificationAbout) ++ shapeSchema (Schema.Shaped.shape Platform))

def resourceSchema : Json :=
  .object
    [("description", .text "Auto-generated derived type for SyndesisSpec via `CustomResource`"),
      ("properties", .object [("spec", specificationSchema), ("status", statusSchema)]),
      ("required", .texts ["spec"]), ("title", .text "Syndesis"), typed "object"]

def column (name type path : String) : Json :=
  .object [("jsonPath", .text path), ("name", .text name), ("type", .text type)]

def resourceVersion : Json :=
  .object
    [("additionalPrinterColumns", .array
        [column "Phase" "string" ".status.phase",
          column "Upgrade" "boolean" ".status.databaseNeedsUpgrade",
          column "Age" "date" ".metadata.creationTimestamp"]),
      ("name", .text "v1beta2"), ("schema", .object [("openAPIV3Schema", resourceSchema)]),
      ("served", .flag true), ("storage", .flag true),
      ("subresources", .object [("status", .object [])])]

def definition : Json :=
  (Json.object
    [("apiVersion", .text "apiextensions.k8s.io/v1"), ("kind", .text "CustomResourceDefinition"),
      ("metadata", .object [("name", .text "syndesises.syndesis.io")]),
      ("spec", .object
        [("group", .text "syndesis.io"),
          ("names", .object
            [("categories", .array []), ("kind", .text "Syndesis"), ("plural", .text "syndesises"),
              ("shortNames", .texts ["syndesis"]), ("singular", .text "syndesis")]),
          ("scope", .text "Namespaced"), ("versions", .array [resourceVersion])])]).canonical

end Cluster

end OperatorConfig
