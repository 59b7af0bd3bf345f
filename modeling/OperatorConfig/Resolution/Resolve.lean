import OperatorConfig.Secret.Generation
import OperatorConfig.Settings.Environment
import OperatorConfig.Settings.External
import OperatorConfig.Settings.Loading
import OperatorConfig.Upgrade.Check

/-!
# Resolving the settings of an installation

One pass: the defaults get the namespace, the stored or generated secrets, what the environment pins,
what the custom resource overrides, and the external database, each over what came before; then the
database is checked for an upgrade. A failure before the check ends the pass, and the check itself never
fails.
-/

namespace OperatorConfig

/-- Which collaborators a resolution has. Without a store all missing secrets are generated, and without
access to the database the decision about an upgrade stays open. -/
structure Reach where
  store : Bool := true
  database : Bool := true
deriving DecidableEq

/-- Resolved settings, with the decision behind their flag. -/
structure Resolution where
  settings : Settings
  upgrade : Decision

def Settings.withDecision (s : Settings) (decision : Decision) : Settings :=
  { s with databaseNeedsUpgrade := decision.needsUpgrade }

namespace Resolution

def secretsName : String := "syndesis-global-config"

def layoutEvents : Option Table → List Event
  | none => []
  | some data =>
      match Bundle.ofData (some data) with
      | .canonical _ => if data.contains Bundle.legacyName then [.legacyIgnored] else []
      | .legacy _ => [.legacyRead]
      | .absent => [.noLayout]

/-- The settings with all their secrets: stored ones, and generated ones where none is stored. -/
def provision (reach : Reach) (namespaceName : String) (s : Settings) (words : Words) :
    Operator (Except Failure Settings × Words) := do
  let stored ←
    if reach.store then Operator.secrets secretsName namespaceName
    else pure (.ok none)
  match stored with
  | .error failure => return (.error failure, words)
  | .ok data => do
      Operator.notes (layoutEvents data)
      Operator.notes (((Bundle.ofData data).apply s).missingSecrets.map .generating)
      let (s, words) := s.provision data words
      return (.ok s, words)

/-- The decision about an upgrade, as far as the reach allows one. -/
def decide (reach : Reach) (namespaceName : String) (s : Settings) : Operator Decision :=
  if s.usesExternalDatabase then pure .noUpgrade
  else if reach.database then Upgrade.decide s namespaceName
  else pure (.undetermined "no cluster access to probe the database")

/-- The overrides and the external database over settings with secrets. -/
def override (env : Environment) (specification : Specification) (s : Settings) :
    Except Failure Settings := do
  let s ← (s.applyEnvironment env).applySpecification specification
  s.applyExternalDatabase

def externalEvents (s : Settings) : List Event :=
  if s.usesExternalDatabase then [.usingExternal s.platform.components.database.url] else []

/-- The last step: the decision about an upgrade. -/
def conclude (reach : Reach) (namespaceName : String) (s : Settings) : Operator Resolution := do
  Operator.notes (externalEvents s)
  let upgrade ← decide reach namespaceName s
  Operator.note (.resolved namespaceName upgrade s.usesExternalDatabase)
  return ⟨s.withDecision upgrade, upgrade⟩

/-- Resolves settings that start from the given defaults. -/
def resolve (reach : Reach) (namespaceName : String) (specification : Specification)
    (env : Environment) (defaults : Settings) (words : Words) :
    Operator (Except Failure Resolution × Words) := do
  let (provisioned, words) ←
    provision reach namespaceName (defaults.inNamespace namespaceName) words
  match provisioned.bind (override env specification) with
  | .error failure => return (.error failure, words)
  | .ok s => do
      let resolution ← conclude reach namespaceName s
      return (.ok resolution, words)

/-- Resolves settings that start from the document with the given name. -/
def resolveDocument (reach : Reach) (namespaceName : String) (specification : Specification)
    (env : Environment) (path : String) (content : Except FileFault (List UInt8)) (words : Words) :
    Operator (Except Failure Resolution × Words) :=
  match Settings.load path content with
  | .error failure => return (.error failure, words)
  | .ok defaults => do
      Operator.note (.defaultsLoaded path)
      resolve reach namespaceName specification env defaults words

end Resolution

end OperatorConfig
