import OperatorConfig.Schema.Merge
import OperatorConfig.Settings.Tree

/-!
# Settings from the environment

Images and a few properties of the database volume can be pinned by variables of the operator's
environment. A variable with the empty value counts as unset. Two further variables turn a flag on, and
none turns one off.
-/

namespace OperatorConfig

/-- The variables of the operator's environment; an unset one has the empty value. -/
structure Environment where
  value : String → String

namespace Environment

def ofTable (table : Table) : Environment where
  value name := (table.get? name).getD ""

def get? (env : Environment) (name : String) : Option String :=
  if env.value name = "" then none else some (env.value name)

/-- Exactly `true` turns a flag on, and a flag that is on stays on. -/
def flag (env : Environment) (name : String) (current : Bool) : Bool :=
  match env.get? name with
  | some value => current || value = "true"
  | none => current

/-- Settings with all texts that the environment pins and nothing else. -/
def overlay (env : Environment) : Settings where
  platform.addons.dv.image := env.value "RELATED_IMAGE_DV"
  platform.addons.camelk.image := env.value "RELATED_IMAGE_CAMELK"
  platform.addons.todo.image := env.value "RELATED_IMAGE_TODO"
  platform.components.oauth.image := env.value "RELATED_IMAGE_OAUTH"
  platform.components.ui.image := env.value "RELATED_IMAGE_UI"
  platform.components.s2i.image := env.value "RELATED_IMAGE_S2I"
  platform.components.prometheus.image := env.value "RELATED_IMAGE_PROMETHEUS"
  platform.components.upgrade.image := env.value "RELATED_IMAGE_UPGRADE"
  platform.components.metadata.image := env.value "RELATED_IMAGE_META"
  platform.components.server.image := env.value "RELATED_IMAGE_SERVER"
  platform.components.amq.image := env.value "RELATED_IMAGE_AMQ"
  platform.components.database.image := env.value "RELATED_IMAGE_DATABASE"
  platform.components.database.exporter.image := env.value "RELATED_IMAGE_PSQL_EXPORTER"
  platform.components.database.resources.volumeAccessMode := env.value "DATABASE_VOLUME_ACCESS_MODE"
  platform.components.database.resources.volumeStorageClass := env.value "DATABASE_STORAGE_CLASS"
  platform.components.database.resources.volumeName := env.value "DATABASE_VOLUME_NAME"

end Environment

namespace Settings

def withFlags (env : Environment) (s : Settings) : Settings :=
  { s with
    devSupport := env.flag "DEV_SUPPORT" s.devSupport
    platform.components.server.features.testSupport :=
      env.flag "TEST_SUPPORT" s.platform.components.server.features.testSupport }

/-- The settings with what the environment pins, merged over them like any other settings, and with its
flags. -/
def applyEnvironment (env : Environment) (s : Settings) : Settings :=
  (Schema.merge s env.overlay).withFlags env

def variableNames : List String :=
  ["DEV_SUPPORT", "TEST_SUPPORT", "RELATED_IMAGE_DV", "RELATED_IMAGE_CAMELK", "RELATED_IMAGE_TODO",
    "RELATED_IMAGE_OAUTH", "RELATED_IMAGE_UI", "RELATED_IMAGE_S2I", "RELATED_IMAGE_PROMETHEUS",
    "RELATED_IMAGE_UPGRADE", "RELATED_IMAGE_META", "RELATED_IMAGE_SERVER", "RELATED_IMAGE_AMQ",
    "RELATED_IMAGE_DATABASE", "RELATED_IMAGE_PSQL_EXPORTER", "DATABASE_VOLUME_ACCESS_MODE",
    "DATABASE_STORAGE_CLASS", "DATABASE_VOLUME_NAME"]

def inNamespace (namespaceName : String) (s : Settings) : Settings :=
  { s with
    project := namespaceName
    platform.components.oauth.sarNamespace := namespaceName }

end Settings

end OperatorConfig
