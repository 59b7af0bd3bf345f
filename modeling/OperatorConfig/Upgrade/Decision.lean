import OperatorConfig.Postgres.Version

/-!
# The decision about an upgrade

Whether the managed database has to be upgraded before the next rollout. Where the versions cannot be
established the decision is open, which counts as no upgrade for the time being.
-/

namespace OperatorConfig

inductive Decision where
  | noUpgrade
  | upgradeNeeded
  /-- The versions could not be established. -/
  | undetermined (reason : String)
deriving DecidableEq

namespace Decision

def needsUpgrade : Decision → Bool
  | .upgradeNeeded => true
  | _ => false

def name : Decision → String
  | .noUpgrade => "NoUpgrade"
  | .upgradeNeeded => "UpgradeNeeded"
  | .undetermined _ => "Undetermined"

/-- An upgrade is needed from a version to a later one. -/
def ofVersions (current target : Postgres.Version) : Decision :=
  if current < target then .upgradeNeeded else .noUpgrade

end Decision

end OperatorConfig
