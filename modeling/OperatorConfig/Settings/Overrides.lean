import OperatorConfig.Failure
import OperatorConfig.Schema.Decode
import OperatorConfig.Schema.Encode
import OperatorConfig.Schema.Merge
import OperatorConfig.Schema.Read
import OperatorConfig.Settings.Tree

/-!
# Overrides of the custom resource

A user overrides settings of the platform in the specification of a custom resource, a document in
which the fields of the platform stand side by side with whatever else the resource holds. What it sets
is merged over the settings.
-/

namespace OperatorConfig

/-- The specification of a custom resource: the settings that it overrides. -/
structure Specification where
  overrides : Platform := {}
deriving DecidableEq, Inhabited

namespace Specification

def kind : String := "SyndesisSpec"

/-- The specification that a JSON value holds. -/
def decode (value : Json) : Except Schema.Mismatch Specification :=
  (Schema.decodeWithin kind value).map .mk

def readDocument (document : Json.Document) : Except Schema.Complaint Specification :=
  (Schema.readWithin kind document).map .mk

def toJson (specification : Specification) : Json :=
  Schema.toJson specification.overrides

end Specification

namespace Platform

/-- The overrides that a JSON value holds. -/
def ofJson (value : Json) : Except Failure Platform :=
  (Schema.decode value).mapError fun mismatch => .overrides mismatch.message

def ofBytes (text : List UInt8) : Except Failure Platform :=
  (Schema.readDocument (Json.Document.ofBytes text)).mapError fun complaint =>
    .overrides (complaint.message text)

end Platform

namespace Settings

/-- The settings with the overrides of a specification, which takes its way through JSON. -/
def applySpecification (specification : Specification) (s : Settings) :
    Except Failure Settings := do
  let overrides ← Platform.ofJson specification.toJson
  return { s with platform := Schema.merge s.platform overrides }

/-- Whether an external database takes the place of the managed one. -/
def usesExternalDatabase (s : Settings) : Bool :=
  s.platform.components.database.externalUrl ≠ ""

end Settings

end OperatorConfig
