import OperatorConfig.Failure
import OperatorConfig.Json.Basic

/-!
# Requests to the cluster

The cluster keeps an object under a path that names the group and version of its kind, its namespace,
its kind and itself. An object is fetched from its path; a patch is sent there, and a part of an object,
such as its status or its log, has a path below. A path holds any characters but blanks, controls and a
few marks; what stands behind a `#` is not sent.
-/

namespace OperatorConfig.Cluster

structure Resource where
  /-- Empty for the core of the cluster. -/
  group : String
  version : String
  plural : String
deriving DecidableEq

namespace Resource

def secrets : Resource := ⟨"", "v1", "secrets"⟩

/-- Running containers and their logs. -/
def pods : Resource := ⟨"", "v1", "pods"⟩

def deployments : Resource := ⟨"apps.openshift.io", "v1", "deploymentconfigs"⟩

/-- Hosts under which something is reached from outside. -/
def routes : Resource := ⟨"route.openshift.io", "v1", "routes"⟩

def installations : Resource := ⟨"syndesis.io", "v1beta2", "syndesises"⟩

def root (resource : Resource) : String :=
  if resource.group = "" then s!"/api/{resource.version}"
  else s!"/apis/{resource.group}/{resource.version}"

def path (resource : Resource) (namespaceName name : String) : String :=
  s!"{resource.root}/namespaces/{namespaceName}/{resource.plural}/{name}"

end Resource

inductive Method where
  | get
  | patch
deriving DecidableEq

def Method.name : Method → String
  | .get => "GET"
  | .patch => "PATCH"

structure Request where
  method : Method
  path : String
  body : Option Json := none

namespace Request

/-- Whether a character may stand in a path, before or behind the `?` that begins its query. -/
def mayStand (inQuery : Bool) (c : Char) : Bool :=
  c.toNat > 0x20 ∧ c ≠ '<' ∧ c ≠ '>' ∧ (if inQuery then c ≠ '"' else c.toNat ≠ 0x60)

/-- The part of a path that is sent, unless a character may not stand there. -/
def sentPart (inQuery : Bool) : List Char → Except RequestFlaw (List Char)
  | [] => .ok []
  | c :: rest =>
      if c = '#' then .ok []
      else if mayStand inQuery c then do
        return c :: (← sentPart (inQuery || c = '?') rest)
      else .error .badPath

/-- A request about an object; `part` follows its path. -/
def about (method : Method) (resource : Resource) (namespaceName name : String) (part : String := "")
    (body : Option Json := none) : Except RequestFlaw Request := do
  if name = "" then throw .nameless
  let path ← sentPart false (resource.path namespaceName name ++ part).toList
  return ⟨method, String.ofList path, body⟩

end Request

end OperatorConfig.Cluster
