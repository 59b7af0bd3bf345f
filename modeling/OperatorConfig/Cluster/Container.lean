import OperatorConfig.Cluster.Form

/-!
# Containers

The description of a container in the cluster. Of all its fields the operator looks at the name and at
the names of the environment variables; the others are kept as they are.
-/

namespace OperatorConfig.Cluster

open Form
open Fields (done field)

/-! ### Forms -/

def keyReference (kind : String) : Form :=
  .record kind <|
    field "key" needed text <| field "name" needed text <| field "optional" optional flag done

def sourceReference (kind : String) : Form :=
  .record kind <| field "name" needed text <| field "optional" optional flag done

def variableSource : Form :=
  .record "EnvVarSource" <|
    field "configMapKeyRef" optional (keyReference "ConfigMapKeySelector") <|
    field "fieldRef" optional
      (.record "ObjectFieldSelector" <|
        field "apiVersion" optional text <| field "fieldPath" needed text done) <|
    field "resourceFieldRef" optional
      (.record "ResourceFieldSelector" <|
        field "containerName" optional text <| field "divisor" optional text <|
        field "resource" needed text done) <|
    field "secretKeyRef" optional (keyReference "SecretKeySelector") done

def variableForm : Form :=
  .record "EnvVar" <|
    field "name" needed text <| field "value" optional text <|
    field "valueFrom" optional variableSource done

def variablesSource : Form :=
  .record "EnvFromSource" <|
    field "configMapRef" optional (sourceReference "ConfigMapEnvSource") <|
    field "prefix" optional text <|
    field "secretRef" optional (sourceReference "SecretEnvSource") done

def execAction : Form :=
  .record "ExecAction" <| field "command" optional (.list text) done

def httpAction : Form :=
  .record "HTTPGetAction" <|
    field "host" optional text <|
    field "httpHeaders" optional
      (.list (.record "HTTPHeader" <|
        field "name" needed text <| field "value" needed text done)) <|
    field "path" optional text <| field "port" needed intOrText <| field "scheme" optional text done

def socketAction : Form :=
  .record "TCPSocketAction" <| field "host" optional text <| field "port" needed intOrText done

/-- What to do at an event in the life of a container. -/
def lifecycleHandler : Form :=
  .record "LifecycleHandler" <|
    field "exec" optional execAction <| field "httpGet" optional httpAction <|
    field "sleep" optional (.record "SleepAction" <| field "seconds" needed int64 done) <|
    field "tcpSocket" optional socketAction done

def healthProbe : Form :=
  .record "Probe" <|
    field "exec" optional execAction <| field "failureThreshold" optional int32 <|
    field "grpc" optional
      (.record "GRPCAction" <| field "port" needed int32 <| field "service" optional text done) <|
    field "httpGet" optional httpAction <| field "initialDelaySeconds" optional int32 <|
    field "periodSeconds" optional int32 <| field "successThreshold" optional int32 <|
    field "tcpSocket" optional socketAction <|
    field "terminationGracePeriodSeconds" optional int64 <|
    field "timeoutSeconds" optional int32 done

def containerPort : Form :=
  .record "ContainerPort" <|
    field "containerPort" needed int32 <| field "hostIP" optional text <|
    field "hostPort" optional int32 <| field "name" optional text <| field "protocol" optional text done

def resourceRequirements : Form :=
  .record "ResourceRequirements" <|
    field "claims" optional (.list (.record "ResourceClaim" <| field "name" needed text done)) <|
    field "limits" optional (.map text) <| field "requests" optional (.map text) done

def securityContext : Form :=
  .record "SecurityContext" <|
    field "allowPrivilegeEscalation" optional flag <|
    field "appArmorProfile" optional
      (.record "AppArmorProfile" <|
        field "localhostProfile" optional text <| field "type" needed text done) <|
    field "capabilities" optional
      (.record "Capabilities" <|
        field "add" optional (.list text) <| field "drop" optional (.list text) done) <|
    field "privileged" optional flag <| field "procMount" optional text <|
    field "readOnlyRootFilesystem" optional flag <| field "runAsGroup" optional int64 <|
    field "runAsNonRoot" optional flag <| field "runAsUser" optional int64 <|
    field "seLinuxOptions" optional
      (.record "SELinuxOptions" <|
        field "level" optional text <| field "role" optional text <| field "type" optional text <|
        field "user" optional text done) <|
    field "seccompProfile" optional
      (.record "SeccompProfile" <|
        field "localhostProfile" optional text <| field "type" needed text done) <|
    field "windowsOptions" optional
      (.record "WindowsSecurityContextOptions" <|
        field "gmsaCredentialSpec" optional text <| field "gmsaCredentialSpecName" optional text <|
        field "hostProcess" optional flag <| field "runAsUserName" optional text done) done

def volumeMount : Form :=
  .record "VolumeMount" <|
    field "mountPath" needed text <| field "mountPropagation" optional text <|
    field "name" needed text <| field "readOnly" optional flag <|
    field "recursiveReadOnly" optional text <| field "subPath" optional text <|
    field "subPathExpr" optional text done

def containerForm : Form :=
  .record "Container" <|
    field "args" optional (.list text) <|
    field "command" optional (.list text) <|
    field "env" optional (.list variableForm) <|
    field "envFrom" optional (.list variablesSource) <|
    field "image" optional text <|
    field "imagePullPolicy" optional text <|
    field "lifecycle" optional
      (.record "Lifecycle" <|
        field "postStart" optional lifecycleHandler <| field "preStop" optional lifecycleHandler done) <|
    field "livenessProbe" optional healthProbe <|
    field "name" needed text <|
    field "ports" optional (.list containerPort) <|
    field "readinessProbe" optional healthProbe <|
    field "resizePolicy" optional
      (.list (.record "ContainerResizePolicy" <|
        field "resourceName" needed text <| field "restartPolicy" needed text done)) <|
    field "resources" optional resourceRequirements <|
    field "restartPolicy" optional text <|
    field "securityContext" optional securityContext <|
    field "startupProbe" optional healthProbe <|
    field "stdin" optional flag <|
    field "stdinOnce" optional flag <|
    field "terminationMessagePath" optional text <|
    field "terminationMessagePolicy" optional text <|
    field "tty" optional flag <|
    field "volumeDevices" optional
      (.list (.record "VolumeDevice" <|
        field "devicePath" needed text <| field "name" needed text done)) <|
    field "volumeMounts" optional (.list volumeMount) <|
    field "workingDir" optional text done

end OperatorConfig.Cluster

namespace OperatorConfig

structure ContainerVariable where
  name : String
  /-- How the variable gets its value. -/
  others : List (String × Json) := []

/-- A container: what the operator looks at, and its other fields. -/
structure Container where
  name : String
  environment : Option (List ContainerVariable) := none
  others : List (String × Json) := []

namespace ContainerVariable

def ofMembers (value : Json) : ContainerVariable where
  name := ((value.get? "name").bind (·.text?)).getD ""
  others := (value.members?.getD []).filter (·.1 ≠ "name")

def toJson (entry : ContainerVariable) : Json :=
  (Json.object (("name", .text entry.name) :: entry.others)).canonical

end ContainerVariable

namespace Container

def ofMembers (value : Json) : Container where
  name := ((value.get? "name").bind (·.text?)).getD ""
  environment := ((value.get? "env").bind (·.items?)).map (·.map ContainerVariable.ofMembers)
  others := (value.members?.getD []).filter fun member => member.1 ≠ "name" ∧ member.1 ≠ "env"

def listOfJson (value : Json) : Except Schema.Mismatch (List Container) := do
  let value ← (Cluster.Form.list Cluster.containerForm).ofJson value
  return (value.items?.getD []).map ofMembers

def toJson (container : Container) : Json :=
  let environment :=
    match container.environment with
    | some entries => [("env", Json.array (entries.map ContainerVariable.toJson))]
    | none => []
  (Json.object (("name", .text container.name) :: environment ++ container.others)).canonical

end Container

end OperatorConfig
