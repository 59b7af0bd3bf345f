import OperatorConfig.Schema.Shape

/-!
# The settings of an installation

The tree of settings, from single components up to `Settings`. Every field has a value that counts as
unset (the empty text, a flag that is off, zero, an empty list or table), so that a document may leave
out what it has nothing to say about. Each structure names its shape, with the field names of the
documents, and lays its fields out along it.
-/

namespace OperatorConfig

open Schema (Shaped)
open Schema.Fields (field done)
open Schema.Shaped (shape toValue ofValue)

/-- A component of which only the image is configured. -/
structure Image where
  image : String := ""
deriving DecidableEq, Inhabited

instance : Shaped Image where
  shape := .record "ImageConfiguration" <|
    field "image" .text <|
    done
  toValue s := (s.image, ())
  ofValue := fun (image, ()) =>
    { image }
  ofValue_toValue _ := rfl
  toValue_ofValue _ := rfl

/-- The proxy that guards the user interface. Its users may list pods in `sarNamespace`. -/
structure OAuthProxy where
  image : String := ""
  cookieSecret : String := ""
  disableSarCheck : Bool := false
  sarNamespace : String := ""
deriving DecidableEq, Inhabited

instance : Shaped OAuthProxy where
  shape := .record "OauthConfiguration" <|
    field (.described "image" "Image for the oauth proxy") .text <|
    field (.described "cookieSecret" "Secret used to encrypt oauth cookies") .text <|
    field "disableSarCheck" .flag <|
    field (.described "sarNamespace"
      "Users need to list pods in this namespace to be granted access") .text <|
    done
  toValue s := (s.image, s.cookieSecret, s.disableSarCheck, s.sarNamespace, ())
  ofValue := fun (image, cookieSecret, disableSarCheck, sarNamespace, ()) =>
    { image, cookieSecret, disableSarCheck, sarNamespace }
  ofValue_toValue _ := rfl
  toValue_ofValue _ := rfl

structure Memory where
  memory : String := ""
deriving DecidableEq, Inhabited

instance : Shaped Memory where
  shape := .record "Resources" <|
    field "memory" .text <|
    done
  toValue s := (s.memory, ())
  ofValue := fun (memory, ()) =>
    { memory }
  ofValue_toValue _ := rfl
  toValue_ofValue _ := rfl

structure MemoryAndVolume where
  memory : String := ""
  volumeCapacity : String := ""
deriving DecidableEq, Inhabited

instance : Shaped MemoryAndVolume where
  shape := .record "ResourcesWithVolume" <|
    field "memory" .text <|
    field "volumeCapacity" .text <|
    done
  toValue s := (s.memory, s.volumeCapacity, ())
  ofValue := fun (memory, volumeCapacity, ()) =>
    { memory, volumeCapacity }
  ofValue_toValue _ := rfl
  toValue_ofValue _ := rfl

/-- What the database may use, and the volume that it claims. -/
structure PersistentVolume where
  memory : String := ""
  volumeCapacity : String := ""
  volumeName : String := ""
  volumeAccessMode : String := ""
  volumeStorageClass : String := ""
  volumeLabels : Table := Table.empty
deriving DecidableEq, Inhabited

instance : Shaped PersistentVolume where
  shape := .record "ResourcesWithPersistentVolume" <|
    field "memory" .text <|
    field "volumeCapacity" .text <|
    field "volumeName" .text <|
    field "volumeAccessMode" .text <|
    field "volumeStorageClass" .text <|
    field "volumeLabels" .table <|
    done
  toValue s := (s.memory, s.volumeCapacity, s.volumeName, s.volumeAccessMode,
      s.volumeStorageClass, s.volumeLabels, ())
  ofValue := fun (memory, volumeCapacity, volumeName, volumeAccessMode, volumeStorageClass,
      volumeLabels, ()) =>
    { memory, volumeCapacity, volumeName, volumeAccessMode, volumeStorageClass, volumeLabels }
  ofValue_toValue _ := rfl
  toValue_ofValue _ := rfl

/-- The volume that a database dump is written to. -/
structure Volume where
  volumeCapacity : String := ""
deriving DecidableEq, Inhabited

instance : Shaped Volume where
  shape := .record "VolumeOnlyResources" <|
    field "volumeCapacity" .text <|
    done
  toValue s := (s.volumeCapacity, ())
  ofValue := fun (volumeCapacity, ()) =>
    { volumeCapacity }
  ofValue_toValue _ := rfl
  toValue_ofValue _ := rfl

structure ServerFeatures where
  integrationLimit : Int32 := 0
  integrationStateCheckInterval : Int32 := 0
  deployIntegrations : Bool := false
  testSupport : Bool := false
  openShiftMaster : String := ""
  managementUrl : String := ""
  mavenRepositories : Table := Table.empty
deriving DecidableEq, Inhabited

instance : Shaped ServerFeatures where
  shape := .record "ServerFeatures" <|
    field (.described "integrationLimit"
      "Maximum number of integrations a single user can create") .integer <|
    field (.described "integrationStateCheckInterval"
      "Interval in seconds for checking integration state") .integer <|
    field "deployIntegrations" .flag <|
    field (.described "testSupport" "Enables the test-support endpoint on the backend API") .flag <|
    field "openShiftMaster" .text <|
    field "managementUrlFor3scale" .text <|
    field "mavenRepositories" .table <|
    done
  toValue s := (s.integrationLimit, s.integrationStateCheckInterval, s.deployIntegrations,
      s.testSupport, s.openShiftMaster, s.managementUrl, s.mavenRepositories, ())
  ofValue := fun (integrationLimit, integrationStateCheckInterval, deployIntegrations,
      testSupport, openShiftMaster, managementUrl, mavenRepositories, ()) =>
    { integrationLimit, integrationStateCheckInterval, deployIntegrations, testSupport,
      openShiftMaster, managementUrl, mavenRepositories }
  ofValue_toValue _ := rfl
  toValue_ofValue _ := rfl

structure Server where
  image : String := ""
  resources : Memory := {}
  features : ServerFeatures := {}
  encryptKey : String := ""
  stateAuthenticationKey : String := ""
  stateEncryptionKey : String := ""
deriving DecidableEq, Inhabited

instance : Shaped Server where
  shape := .record "ServerConfiguration" <|
    field "image" .text <|
    field "resources" (shape Memory) <|
    field "features" (shape ServerFeatures) <|
    field (.described "syndesisEncryptKey" "Key used to encrypt stored secrets") .text <|
    field (.described "clientStateAuthenticationKey"
      "Key authenticating client side stored state") .text <|
    field (.described "clientStateEncryptionKey" "Key encrypting client side stored state") .text <|
    done
  toValue s := (s.image, toValue s.resources, toValue s.features, s.encryptKey,
      s.stateAuthenticationKey, s.stateEncryptionKey, ())
  ofValue := fun (image, resources, features, encryptKey, stateAuthenticationKey,
      stateEncryptionKey, ()) =>
    { image, resources := ofValue resources, features := ofValue features, encryptKey,
      stateAuthenticationKey, stateEncryptionKey }
  ofValue_toValue _ := rfl
  toValue_ofValue _ := rfl

structure MetaService where
  image : String := ""
  resources : MemoryAndVolume := {}
deriving DecidableEq, Inhabited

instance : Shaped MetaService where
  shape := .record "MetaConfiguration" <|
    field "image" .text <|
    field "resources" (shape MemoryAndVolume) <|
    done
  toValue s := (s.image, toValue s.resources, ())
  ofValue := fun (image, resources, ()) =>
    { image, resources := ofValue resources }
  ofValue_toValue _ := rfl
  toValue_ofValue _ := rfl

/-- The database: a managed one, or the one at `externalUrl` where that is set. -/
structure Database where
  image : String := ""
  user : String := ""
  name : String := ""
  url : String := ""
  externalUrl : String := ""
  resources : PersistentVolume := {}
  exporter : Image := {}
  password : String := ""
  sampleDatabasePassword : String := ""
deriving DecidableEq, Inhabited

instance : Shaped Database where
  shape := .record "DatabaseConfiguration" <|
    field "image" .text <|
    field (.described "user" "PostgreSQL user used by the server") .text <|
    field (.described "name" "Name of the PostgreSQL database") .text <|
    field (.described "url" "Connection URL of the database") .text <|
    field
      { name := "externalDbURL"
        older := some "externalDbUrl"
        about := some "When set, an external database is used instead of the managed one" }
      .text <|
    field "resources" (shape PersistentVolume) <|
    field "exporter" (shape Image) <|
    field "password" .text <|
    field "sampledbPassword" .text <|
    done
  toValue s := (s.image, s.user, s.name, s.url, s.externalUrl, toValue s.resources,
      toValue s.exporter, s.password, s.sampleDatabasePassword, ())
  ofValue := fun (image, user, name, url, externalUrl, resources, exporter, password,
      sampleDatabasePassword, ()) =>
    { image, user, name, url, externalUrl, resources := ofValue resources,
      exporter := ofValue exporter, password, sampleDatabasePassword }
  ofValue_toValue _ := rfl
  toValue_ofValue _ := rfl

/-- The monitoring service. -/
structure Prometheus where
  image : String := ""
  rules : String := ""
  resources : MemoryAndVolume := {}
deriving DecidableEq, Inhabited

instance : Shaped Prometheus where
  shape := .record "PrometheusConfiguration" <|
    field "image" .text <|
    field "rules" .text <|
    field "resources" (shape MemoryAndVolume) <|
    done
  toValue s := (s.image, s.rules, toValue s.resources, ())
  ofValue := fun (image, rules, resources, ()) =>
    { image, rules, resources := ofValue resources }
  ofValue_toValue _ := rfl
  toValue_ofValue _ := rfl

/-- The dashboard service. -/
structure Grafana where
  resources : Memory := {}
deriving DecidableEq, Inhabited

instance : Shaped Grafana where
  shape := .record "GrafanaConfiguration" <|
    field "resources" (shape Memory) <|
    done
  toValue s := (toValue s.resources, ())
  ofValue := fun (resources, ()) =>
    { resources := ofValue resources }
  ofValue_toValue _ := rfl
  toValue_ofValue _ := rfl

/-- The job that upgrades an installation. -/
structure UpgradeJob where
  image : String := ""
  resources : Volume := {}
deriving DecidableEq, Inhabited

instance : Shaped UpgradeJob where
  shape := .record "UpgradeConfiguration" <|
    field "image" .text <|
    field (.described "resources"
      "Volume where the database dump is saved during an upgrade") (shape Volume) <|
    done
  toValue s := (s.image, toValue s.resources, ())
  ofValue := fun (image, resources, ()) =>
    { image, resources := ofValue resources }
  ofValue_toValue _ := rfl
  toValue_ofValue _ := rfl

structure Components where
  ui : Image := {}
  s2i : Image := {}
  oauth : OAuthProxy := {}
  server : Server := {}
  metadata : MetaService := {}
  database : Database := {}
  prometheus : Prometheus := {}
  grafana : Grafana := {}
  upgrade : UpgradeJob := {}
  amq : Image := {}
deriving DecidableEq, Inhabited

instance : Shaped Components where
  shape := .record "ComponentsSpec" <|
    field "ui" (shape Image) <|
    field "s2i" (shape Image) <|
    field "oauth" (shape OAuthProxy) <|
    field "server" (shape Server) <|
    field "meta" (shape MetaService) <|
    field "database" (shape Database) <|
    field "prometheus" (shape Prometheus) <|
    field "grafana" (shape Grafana) <|
    field "upgrade" (shape UpgradeJob) <|
    field "amq" (shape Image) <|
    done
  toValue s := (toValue s.ui, toValue s.s2i, toValue s.oauth, toValue s.server,
      toValue s.metadata, toValue s.database, toValue s.prometheus, toValue s.grafana,
      toValue s.upgrade, toValue s.amq, ())
  ofValue := fun (ui, s2i, oauth, server, metadata, database, prometheus, grafana, upgrade,
      amq, ()) =>
    { ui := ofValue ui, s2i := ofValue s2i, oauth := ofValue oauth, server := ofValue server,
      metadata := ofValue metadata, database := ofValue database,
      prometheus := ofValue prometheus, grafana := ofValue grafana, upgrade := ofValue upgrade,
      amq := ofValue amq }
  ofValue_toValue _ := rfl
  toValue_ofValue _ := rfl

/-- The tracing add-on. -/
structure Jaeger where
  enabled : Bool := false
  clientOnly : Bool := false
  operatorOnly : Bool := false
  queryUri : String := ""
  collectorUri : String := ""
  samplerType : String := ""
  samplerParam : String := ""
  imageAgent : String := ""
  imageAllInOne : String := ""
  imageOperator : String := ""
deriving DecidableEq, Inhabited

instance : Shaped Jaeger where
  shape := .record "JaegerConfiguration" <|
    field "enabled" .flag <|
    field "clientOnly" .flag <|
    field "operatorOnly" .flag <|
    field "queryUri" .text <|
    field "collectorUri" .text <|
    field "samplerType" .text <|
    field "samplerParam" .text <|
    field "imageAgent" .text <|
    field "imageAllInOne" .text <|
    field "imageOperator" .text <|
    done
  toValue s := (s.enabled, s.clientOnly, s.operatorOnly, s.queryUri, s.collectorUri,
      s.samplerType, s.samplerParam, s.imageAgent, s.imageAllInOne, s.imageOperator, ())
  ofValue := fun (enabled, clientOnly, operatorOnly, queryUri, collectorUri, samplerType,
      samplerParam, imageAgent, imageAllInOne, imageOperator, ()) =>
    { enabled, clientOnly, operatorOnly, queryUri, collectorUri, samplerType, samplerParam,
      imageAgent, imageAllInOne, imageOperator }
  ofValue_toValue _ := rfl
  toValue_ofValue _ := rfl

/-- An add-on that is only switched on or off. -/
structure Toggle where
  enabled : Bool := false
deriving DecidableEq, Inhabited

instance : Shaped Toggle where
  shape := .record "AddonConfiguration" <|
    field "enabled" .flag <|
    done
  toValue s := (s.enabled, ())
  ofValue := fun (enabled, ()) =>
    { enabled }
  ofValue_toValue _ := rfl
  toValue_ofValue _ := rfl

/-- The sample application. -/
structure Todo where
  image : String := ""
  enabled : Bool := false
deriving DecidableEq, Inhabited

instance : Shaped Todo where
  shape := .record "TodoConfiguration" <|
    field (.described "image" "Image for the todo sample app") .text <|
    field "enabled" .flag <|
    done
  toValue s := (s.image, s.enabled, ())
  ofValue := fun (image, enabled, ()) =>
    { image, enabled }
  ofValue_toValue _ := rfl
  toValue_ofValue _ := rfl

structure DataVirtualization where
  image : String := ""
  enabled : Bool := false
  resources : Memory := {}
deriving DecidableEq, Inhabited

instance : Shaped DataVirtualization where
  shape := .record "DvConfiguration" <|
    field "image" .text <|
    field "enabled" .flag <|
    field "resources" (shape Memory) <|
    done
  toValue s := (s.image, s.enabled, toValue s.resources, ())
  ofValue := fun (image, enabled, resources, ()) =>
    { image, enabled, resources := ofValue resources }
  ofValue_toValue _ := rfl
  toValue_ofValue _ := rfl

structure CamelK where
  image : String := ""
  enabled : Bool := false
  camelVersion : String := ""
  runtimeVersion : String := ""
deriving DecidableEq, Inhabited

instance : Shaped CamelK where
  shape := .record "CamelKConfiguration" <|
    field "image" .text <|
    field "enabled" .flag <|
    field "camelVersion" .text <|
    field "camelKRuntime" .text <|
    done
  toValue s := (s.image, s.enabled, s.camelVersion, s.runtimeVersion, ())
  ofValue := fun (image, enabled, camelVersion, runtimeVersion, ()) =>
    { image, enabled, camelVersion, runtimeVersion }
  ofValue_toValue _ := rfl
  toValue_ofValue _ := rfl

/-- The add-on that exposes the API to the public. -/
structure PublicApi where
  enabled : Bool := false
  routeHostname : String := ""
  disableSarCheck : Bool := false
deriving DecidableEq, Inhabited

instance : Shaped PublicApi where
  shape := .record "PublicApiConfiguration" <|
    field "enabled" .flag <|
    field "routeHostname" .text <|
    field "disableSarCheck" .flag <|
    done
  toValue s := (s.enabled, s.routeHostname, s.disableSarCheck, ())
  ofValue := fun (enabled, routeHostname, disableSarCheck, ()) =>
    { enabled, routeHostname, disableSarCheck }
  ofValue_toValue _ := rfl
  toValue_ofValue _ := rfl

structure Addons where
  jaeger : Jaeger := {}
  ops : Toggle := {}
  todo : Todo := {}
  knative : Toggle := {}
  dv : DataVirtualization := {}
  camelk : CamelK := {}
  publicApi : PublicApi := {}
deriving DecidableEq, Inhabited

instance : Shaped Addons where
  shape := .record "AddonsSpec" <|
    field "jaeger" (shape Jaeger) <|
    field "ops" (shape Toggle) <|
    field "todo" (shape Todo) <|
    field "knative" (shape Toggle) <|
    field "dv" (shape DataVirtualization) <|
    field "camelk" (shape CamelK) <|
    field "publicApi" (shape PublicApi) <|
    done
  toValue s := (toValue s.jaeger, toValue s.ops, toValue s.todo, toValue s.knative, toValue s.dv,
      toValue s.camelk, toValue s.publicApi, ())
  ofValue := fun (jaeger, ops, todo, knative, dv, camelk, publicApi, ()) =>
    { jaeger := ofValue jaeger, ops := ofValue ops, todo := ofValue todo,
      knative := ofValue knative, dv := ofValue dv, camelk := ofValue camelk,
      publicApi := ofValue publicApi }
  ofValue_toValue _ := rfl
  toValue_ofValue _ := rfl

/-- What may be overridden by the environment and by the custom resource. -/
structure Platform where
  demoData : Bool := false
  sha : Bool := false
  routeHostname : String := ""
  components : Components := {}
  addons : Addons := {}
deriving DecidableEq, Inhabited

instance : Shaped Platform where
  shape := .record "SyndesisConfig" <|
    field (.described "demoData" "Start up with demo data") .flag <|
    field (.described "sha" "Reference images by SHA instead of tag") .flag <|
    field (.described "routeHostname" "External hostname used to reach the installation") .text <|
    field "components" (shape Components) <|
    field "addons" (shape Addons) <|
    done
  toValue s := (s.demoData, s.sha, s.routeHostname, toValue s.components, toValue s.addons, ())
  ofValue := fun (demoData, sha, routeHostname, components, addons, ()) =>
    { demoData, sha, routeHostname, components := ofValue components, addons := ofValue addons }
  ofValue_toValue _ := rfl
  toValue_ofValue _ := rfl

structure Settings where
  allowLocalHost : Bool := false
  productized : Bool := false
  version : String := ""
  devSupport : Bool := false
  scheduled : Bool := false
  productName : String := ""
  prometheusRules : String := ""
  project : String := ""
  oauthClientSecret : String := ""
  consoleUrl : String := ""
  imagePullSecrets : List String := []
  databaseNeedsUpgrade : Bool := false
  platform : Platform := {}
deriving DecidableEq, Inhabited

instance : Shaped Settings where
  shape := .record "Config" <|
    field "allowLocalHost" .flag <|
    field "productized" .flag <|
    field "version" .text <|
    field "devSupport" .flag <|
    field "scheduled" .flag <|
    field "productName" .text <|
    field "prometheusRules" .text <|
    field "openShiftProject" .text <|
    field "openShiftOauthClientSecret" .text <|
    field "openShiftConsoleUrl" .text <|
    field "imagePullSecrets" .texts <|
    field "databaseNeedsUpgrade" .flag <|
    field "syndesis" (shape Platform) <|
    done
  toValue s := (s.allowLocalHost, s.productized, s.version, s.devSupport, s.scheduled,
      s.productName, s.prometheusRules, s.project, s.oauthClientSecret, s.consoleUrl,
      s.imagePullSecrets, s.databaseNeedsUpgrade, toValue s.platform, ())
  ofValue := fun (allowLocalHost, productized, version, devSupport, scheduled, productName,
      prometheusRules, project, oauthClientSecret, consoleUrl, imagePullSecrets,
      databaseNeedsUpgrade, platform, ()) =>
    { allowLocalHost, productized, version, devSupport, scheduled, productName, prometheusRules,
      project, oauthClientSecret, consoleUrl, imagePullSecrets, databaseNeedsUpgrade,
      platform := ofValue platform }
  ofValue_toValue _ := rfl
  toValue_ofValue _ := rfl

end OperatorConfig
