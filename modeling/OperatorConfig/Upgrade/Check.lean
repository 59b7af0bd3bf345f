import OperatorConfig.Operator
import OperatorConfig.Settings.Overrides

/-!
# Whether to upgrade the database

The check asks as little as it can. An external database is not the operator's to upgrade. A container
of the managed one that carries the mark of an upgrade is being upgraded, and keeps on. Otherwise the
version that runs is compared with the one that the next rollout will run, and where one of them cannot
be established the decision stays open: the database is never upgraded on a guess.
-/

namespace OperatorConfig

namespace Upgrade

def databaseContainer : String := "postgresql"

def markVariable : String := "POSTGRESQL_UPGRADE"

/-- Whether a container of the database carries the mark. -/
def hasMark (containers : List Container) : Bool :=
  containers.any fun container =>
    decide (container.name = databaseContainer) &&
      (container.environment.getD []).any fun entry => decide (entry.name = markVariable)

/-- The version told by a banner, if there is one. -/
def versionOf (banner : Except Failure String) : Except Failure Postgres.Version :=
  banner.bind Postgres.Banner.parse

/-- Leaves the decision open because of a failure. -/
def leaveOpen (context : String) (failure : Failure) : Operator Decision := do
  Operator.note (.undetermined failure)
  return .undetermined s!"{context}: {failure.message}"

/-- Compares the running version with the one of the next rollout. -/
def compareVersions (s : Settings) (namespaceName : String) : Operator Decision := do
  let database := s.platform.components.database
  let connection := Connection.managed database.user database.password database.name
  match versionOf (← Operator.runningBanner connection) with
  | .error failure => leaveOpen "unable to determine running PostgreSQL version" failure
  | .ok current =>
      match versionOf (← Operator.targetBanner namespaceName) with
      | .error failure =>
          leaveOpen "unable to determine target PostgreSQL version from the init container" failure
      | .ok target => do
          let decision := Decision.ofVersions current target
          Operator.note (.versionsCompared current target decision)
          return decision

/-- Decides about the managed database of a namespace. -/
def decide (s : Settings) (namespaceName : String) : Operator Decision := do
  if s.usesExternalDatabase then
    Operator.note .upgradeCheckSkipped
    return .noUpgrade
  else
    match ← Operator.containers namespaceName with
    | .ok (some containers) =>
        if hasMark containers then do
          Operator.note .upgradeInProgress
          return .upgradeNeeded
        else compareVersions s namespaceName
    | .ok none => compareVersions s namespaceName
    | .error failure => do
        Operator.note (.containersUnreadable failure)
        compareVersions s namespaceName

end Upgrade

end OperatorConfig
