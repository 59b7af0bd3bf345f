import OperatorConfig.Failure
import OperatorConfig.Log.Record
import OperatorConfig.Postgres.Version
import OperatorConfig.Secret.Bundle
import OperatorConfig.Upgrade.Decision

/-!
# Events

What the operator notes on its way through a resolution, and how each event stands in the log.
-/

namespace OperatorConfig

inductive Event where
  | starting (namespaceName : String)
  | connected
  | defaultsLoaded (path : String)
  | secretsAbsent (namespaceName name : String)
  /-- Stored secrets in both layouts. -/
  | legacyIgnored
  | legacyRead
  /-- Stored data in neither layout. -/
  | noLayout
  | generating (field : SecretField)
  | usingExternal (url : String)
  | upgradeCheckSkipped
  | upgradeInProgress
  | containersUnreadable (failure : Failure)
  | undetermined (failure : Failure)
  | versionsCompared (current target : Postgres.Version) (decision : Decision)
  | databaseAbsent (namespaceName name : String)
  | runningBannerRead (banner : String)
  | targetBannerRead (banner : String)
  | resolved (namespaceName : String) (upgrade : Decision) (external : Bool)
  | routeAbsent (namespaceName name : String)
  | reported (phase : String) (namespaceName name : String)
  | reportFailed (failure : Failure)
  | refused (refusal : Refusal)
  /-- What the cluster says about a refusal is in no known form. -/
  | refusalUnclear (body : String)
  /-- A refusal of which nothing more is known than the status. -/
  | refusalSupposed (refusal : Refusal)
  | replyUnreadable (body reason : String) (place : Json.Position)
  /-- The run ends with a failure, told with what lies behind it. -/
  | failed (account : String)

namespace Event

def origin (parts : List String) : String :=
  "::".intercalate ("syndesis_config" :: parts)

/-- The part that talks to the cluster. -/
def clientOrigin : String := "kube_client::client"

/-- An event as a record of the log. -/
def record : Event → Log.Record
  | .starting namespaceName =>
      ⟨.info, origin [], s!"Starting syndesis-config v0.1.0 for namespace {namespaceName}", []⟩
  | .connected => ⟨.info, origin [], "Connected to Kubernetes cluster", []⟩
  | .defaultsLoaded path =>
      ⟨.debug, origin ["configuration", "loader"], "Loaded default configuration",
        [("path", .text path)]⟩
  | .secretsAbsent namespaceName name =>
      ⟨.debug, origin ["configuration", "secret_store"], s!"Secret {namespaceName}/{name} not found", []⟩
  | .legacyIgnored =>
      ⟨.debug, origin ["configuration", "secrets"],
        "Secret bundle carries both layouts, ignoring legacy params", []⟩
  | .legacyRead =>
      ⟨.info, origin ["configuration", "secrets"], "Reading secrets from legacy params layout", []⟩
  | .noLayout =>
      ⟨.warn, origin ["configuration", "secrets"],
        "Secret bundle holds no known layout, secrets will be generated", []⟩
  | .generating field =>
      ⟨.debug, origin ["configuration", "secrets"], "Generating secret", [("field", .text field.name)]⟩
  | .usingExternal url =>
      ⟨.debug, origin ["configuration"], "Using external database", [("url", .text url)]⟩
  | .upgradeCheckSkipped =>
      ⟨.info, origin ["controller", "upgrade"],
        "External database configured, skipping upgrade check", []⟩
  | .upgradeInProgress =>
      ⟨.info, origin ["controller", "upgrade"], "Database upgrade already in progress, keeping it", []⟩
  | .containersUnreadable failure =>
      ⟨.warn, origin ["controller", "upgrade"],
        s!"Unable to read database DeploymentConfig: {failure.message}", []⟩
  | .undetermined failure =>
      ⟨.warn, origin ["controller", "upgrade"], failure.message, [("decision", .text "Undetermined")]⟩
  | .versionsCompared current target decision =>
      ⟨.info, origin ["controller", "upgrade"], "PostgreSQL upgrade summary",
        [("source_postgres_version", .text current.text),
          ("target_postgres_version", .text target.text),
          ("perform_upgrade", .flag decision.needsUpgrade)]⟩
  | .databaseAbsent namespaceName name =>
      ⟨.debug, origin ["database", "probe"], s!"DeploymentConfig {namespaceName}/{name} not found", []⟩
  | .runningBannerRead banner =>
      ⟨.debug, origin ["database", "probe"], "Read running PostgreSQL version",
        [("banner", .text banner)]⟩
  | .targetBannerRead banner =>
      ⟨.debug, origin ["database", "probe"], "Read target PostgreSQL version",
        [("banner", .text (Text.trim banner))]⟩
  | .resolved namespaceName upgrade external =>
      ⟨.info, origin ["controller", "resolver"], "Configuration resolved",
        [("namespace", .text namespaceName), ("upgrade", .text upgrade.name),
          ("external_database", .flag external)]⟩
  | .routeAbsent namespaceName name =>
      ⟨.debug, origin ["controller", "route"], s!"Route {namespaceName}/{name} not found", []⟩
  | .reported phase namespaceName name =>
      ⟨.info, origin ["controller", "status"],
        s!"Reported resolution Some({phase}) for {namespaceName}/{name}", []⟩
  | .reportFailed failure =>
      ⟨.error, origin [], s!"Failed to report resolution status: {failure.message}", []⟩
  | .refused refusal =>
      ⟨.debug, clientOrigin, "Unsuccessful: " ++ refusal.details, []⟩
  | .refusalUnclear body => ⟨.warn, clientOrigin, s!"Unsuccessful data error parse: {body}", []⟩
  | .refusalSupposed refusal =>
      ⟨.debug, clientOrigin, "Unsuccessful: " ++ refusal.details ++ " (reconstruct)", []⟩
  | .replyUnreadable body reason place =>
      ⟨.warn, clientOrigin,
        s!"{body}, Error(" ++ Text.quoted reason ++ s!", line: {place.line}, column: {place.column})", []⟩
  | .failed account => ⟨.error, origin [], s!"Resolution failed: {account}", []⟩

end Event

end OperatorConfig
