import OperatorConfig.Settings.Tree

/-!
# Add-ons

The add-ons of an installation in the order in which they are installed.
-/

namespace OperatorConfig

inductive Addon where
  | jaeger
  | ops
  | dv
  | camelk
  | knative
  | publicApi
  | todo
deriving DecidableEq

namespace Addon

/-- Every add-on, in the order in which they are installed. -/
def all : List Addon :=
  [.jaeger, .ops, .dv, .camelk, .knative, .publicApi, .todo]

def name : Addon → String
  | .jaeger => "jaeger"
  | .ops => "ops"
  | .dv => "dv"
  | .camelk => "camelk"
  | .knative => "knative"
  | .publicApi => "publicApi"
  | .todo => "todo"

def isEnabled (addon : Addon) (s : Settings) : Bool :=
  match addon with
  | .jaeger => s.platform.addons.jaeger.enabled
  | .ops => s.platform.addons.ops.enabled
  | .dv => s.platform.addons.dv.enabled
  | .camelk => s.platform.addons.camelk.enabled
  | .knative => s.platform.addons.knative.enabled
  | .publicApi => s.platform.addons.publicApi.enabled
  | .todo => s.platform.addons.todo.enabled

end Addon

end OperatorConfig
