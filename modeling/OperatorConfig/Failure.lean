import OperatorConfig.Json.Fault
import OperatorConfig.Text.Quoted
import OperatorConfig.Text.Utf8

/-!
# Failures

Why a resolution fails. A `RequestFault` is what can become of a request to the cluster; a `Failure` is
what a stage of the resolution reports. A failure whose cause lies with a collaborator may clear when
the resolution is retried; one whose cause lies with a document or a setting will not.
-/

namespace OperatorConfig

/-- What the cluster answers to a request that it refuses. -/
structure Refusal where
  status : String
  message : String
  reason : String
  code : Nat
deriving DecidableEq

def Refusal.summary (refusal : Refusal) : String :=
  s!"{refusal.message}: {refusal.reason}"

def Refusal.details (refusal : Refusal) : String :=
  "ErrorResponse \x7b status: " ++ Text.quoted refusal.status
    ++ ", message: " ++ Text.quoted refusal.message
    ++ ", reason: " ++ Text.quoted refusal.reason
    ++ s!", code: {refusal.code} \x7d"

/-- Why a request cannot be sent. -/
inductive RequestFlaw where
  /-- It is about an object without a name. -/
  | nameless
  /-- A character of its path may stand in no path. -/
  | badPath
deriving DecidableEq

namespace RequestFlaw

def message : RequestFlaw → String
  | .nameless => "failed to validate request: A non-empty name is required"
  | .badPath => "failed to build request: invalid uri character"

def causes : RequestFlaw → List String
  | .nameless => []
  | .badPath => ["invalid uri character"]

end RequestFlaw

/-- Why a request to the cluster has no answer. -/
inductive RequestFault where
  | refused (refusal : Refusal)
  | unsendable (flaw : RequestFlaw)
  | transport (text : String)
  | notText (fault : Text.Utf8Fault)
  | unreadable (reason : String) (place : Json.Position)
deriving DecidableEq

namespace RequestFault

def message : RequestFault → String
  | .refused refusal => s!"ApiError: {refusal.summary} (" ++ refusal.details ++ ")"
  | .unsendable flaw => s!"Failed to build request: {flaw.message}"
  | .transport text => s!"ServiceError: {text}"
  | .notText fault => s!"UTF-8 Error: {fault.message}"
  | .unreadable reason place => s!"Error deserializing response: {reason}" ++ place.suffix

/-- What lies behind a fault, the nearest cause first. -/
def causes : RequestFault → List String
  | .refused refusal => [refusal.summary]
  | .unsendable flaw => flaw.message :: flaw.causes
  | .transport text => [text]
  | .notText fault => [fault.message]
  | .unreadable reason place => [reason ++ place.suffix]

/-- Whether the cluster says that there is no such object. -/
def isAbsent : RequestFault → Bool
  | .refused refusal => refusal.code = 404
  | _ => false

end RequestFault

/-- Why a stage of a resolution fails. -/
inductive Failure where
  | load (path detail : String)
  | secretStore (fault : RequestFault)
  /-- The overrides of the custom resource have the wrong form. -/
  | overrides (detail : String)
  | versionProbe (detail : String)
  | cluster (fault : RequestFault)
  | configuration (detail : String)
deriving DecidableEq

namespace Failure

def message : Failure → String
  | .load path detail => s!"Failed to load default configuration from {path}: {detail}"
  | .secretStore fault => s!"Secret store error: {fault.message}"
  | .overrides detail => s!"Failed to deserialize custom resource overrides: {detail}"
  | .versionProbe detail => s!"Version probe error: {detail}"
  | .cluster fault => s!"Kubernetes API error: {fault.message}"
  | .configuration detail => s!"Configuration error: {detail}"

def causes : Failure → List String
  | .secretStore fault => fault.message :: fault.causes
  | .cluster fault => fault.message :: fault.causes
  | .overrides detail => [detail]
  | _ => []

/-- Whether a retry can succeed while the user changes nothing. -/
def isRetriable : Failure → Bool
  | .secretStore _ => true
  | .versionProbe _ => true
  | .cluster _ => true
  | _ => false

end Failure

end OperatorConfig
