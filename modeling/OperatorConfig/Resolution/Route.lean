import OperatorConfig.Operator
import OperatorConfig.Settings.Environment

/-!
# The host of an installation

The host under which an installation is reached is pinned by the environment, or else read off the route
of the cluster. Where neither gives one the settings keep theirs.
-/

namespace OperatorConfig

def hostVariable : String := "ROUTE_HOSTNAME"

def routeHostOf (route : Json) : Option String :=
  match (route.at? ["spec", "host"]).bind (·.text?) with
  | some host => if host = "" then none else some host
  | none => none

namespace Settings

def withHost (host : String) (s : Settings) : Settings :=
  { s with platform.routeHostname := host }

def setRoute (env : Environment) (namespaceName : String) (s : Settings) :
    Operator (Except Failure Settings) := do
  match env.get? hostVariable with
  | some host => return .ok (s.withHost host)
  | none =>
      match ← Operator.routeHost namespaceName with
      | .error failure => return .error failure
      | .ok none => return .ok s
      | .ok (some host) => return .ok (s.withHost host)

end Settings

end OperatorConfig
