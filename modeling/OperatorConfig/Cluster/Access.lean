import OperatorConfig.Cluster.Exchange
import OperatorConfig.Cluster.Object
import OperatorConfig.Cluster.Secret
import OperatorConfig.Resolution.Route
import OperatorConfig.Text.Duration

/-!
# Access to the cluster

How each question of a resolution is answered by requests, and the two requests that frame a resolution:
fetching the specification of the custom resource and reporting the outcome. An object that does not
exist is no failure where the resolution goes on without it.
-/

namespace OperatorConfig.Cluster

/-- How the operator reaches the cluster. -/
structure Access where
  /-- The name of the operator's own pod; empty where it is unknown. -/
  pod : String := ""
  /-- How many milliseconds a probe of the database may take. -/
  patience : Nat := 10000

/-- The container of the operator's pod that tells the version of the next rollout. -/
def versionContainer : String := "postgres-version"

/-- The greatest number of bytes that are read of its log. -/
def versionLogLimit : Nat := 4096

/-- The name under which the operator changes objects. -/
def manager : String := "syndesis-operator"

def routeName : String := "syndesis"

def fetchSecrets (name namespaceName : String) : Wire (Except Failure (Option Table)) := do
  let secret ← Wire.fetch (Reply.read (secretForm.read Json.deepest none))
    (Request.about .get .secrets namespaceName name)
  let found := StoredSecret.ofLookup (secret.map StoredSecret.ofMembers)
  match found with
  | .ok none => Wire.note (.secretsAbsent namespaceName name)
  | _ => pure ()
  return found

/-- The containers that a description of the managed database lists, if it gets that far. -/
def containersOf (deployment : Json) : Except Failure (Option (List Container)) :=
  match deployment.at? ["spec", "template", "spec", "containers"] with
  | none => .ok none
  | some listed =>
      match Container.listOfJson listed with
      | .ok containers => .ok (some containers)
      | .error mismatch =>
          .error (.versionProbe s!"malformed DeploymentConfig containers: {mismatch.message}")

/-- Whether the cluster gives as its reason that there is no such object. -/
def isReportedAbsent : RequestFault → Bool
  | .refused refusal => refusal.reason = "NotFound"
  | _ => false

def fetchContainers (namespaceName : String) : Wire (Except Failure (Option (List Container))) := do
  match ← Wire.fetch (Reply.read readObject)
      (Request.about .get .deployments namespaceName managedDatabase) with
  | .ok deployment => return containersOf deployment
  | .error fault =>
      if isReportedAbsent fault then do
        Wire.note (.databaseAbsent namespaceName managedDatabase)
        return .ok none
      else return .error (.cluster fault)

def logText (body : List UInt8) : Except Failure String :=
  match Text.ofBytes? body with
  | some text => .ok text
  | none => .error (.versionProbe "stream did not contain valid UTF-8")

/-- What a reply tells about the version of the next rollout. -/
def targetOf (patience : Nat) (reply : Reply) : Except Failure String :=
  match reply with
  | .silent =>
      .error (.versionProbe
        s!"PostgreSQL target version log read timed out after {Text.duration patience}")
  | reply => do logText (← reply.body.mapError fun fault => .versionProbe fault.message)

def fetchTargetBanner (access : Access) (namespaceName : String) : Wire (Except Failure String) := do
  if access.pod = "" then
    return .error (.versionProbe "operator pod name is unknown (POD_NAME not set)")
  else
    let part := s!"/log?&container={versionContainer}&limitBytes={versionLogLimit}"
    match ← Wire.send (Request.about .get .pods namespaceName access.pod part) with
    | .error fault => return .error (.versionProbe fault.message)
    | .ok reply =>
        match targetOf access.patience reply with
        | .error failure => return .error failure
        | .ok banner => do
            Wire.note (.targetBannerRead banner)
            return .ok banner

def fetchRouteHost (namespaceName : String) : Wire (Except Failure (Option String)) := do
  match ← Wire.fetch (Reply.read readObject)
      (Request.about .get .routes namespaceName routeName) with
  | .ok route => return .ok (routeHostOf route)
  | .error fault =>
      if fault.isAbsent then do
        Wire.note (.routeAbsent namespaceName routeName)
        return .ok none
      else return .error (.cluster fault)

def Access.answer (access : Access) : (question : Question) → Wire question.Answer
  | .secrets name namespaceName => fetchSecrets name namespaceName
  | .containers namespaceName => fetchContainers namespaceName
  | .runningBanner connection =>
      Wire.speak connection
        (Postgres.readBanner connection.user connection.password connection.database)
  | .targetBanner namespaceName => fetchTargetBanner access namespaceName
  | .routeHost namespaceName => fetchRouteHost namespaceName

def Access.run {α : Type} (access : Access) (operator : Operator α) : Wire α :=
  operator.through access.answer

/-- The specification of a custom resource; one that says nothing overrides nothing. -/
def fetchSpecification (namespaceName name : String) : Wire (Except Failure Specification) := do
  match ← Wire.fetch (Reply.read readObject)
      (Request.about .get .installations namespaceName name) with
  | .error fault => return .error (.cluster fault)
  | .ok resource =>
      return (Platform.ofJson ((resource.get? "spec").getD (.object []))).map .mk

def report (namespaceName name : String) (status : Status) : Wire (Except Failure Unit) := do
  let part := s!"/status?&fieldManager={manager}"
  let body := Json.object [("status", status.toJson)]
  match ← Wire.fetch (Reply.read Installation.readNode)
      (Request.about .patch .installations namespaceName name part (some body)) with
  | .error fault => return .error (.cluster fault)
  | .ok _ => do
      Wire.note (.reported ((status.phase.map Phase.name).getD "") namespaceName name)
      return .ok ()

end OperatorConfig.Cluster
