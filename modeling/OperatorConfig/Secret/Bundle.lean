import OperatorConfig.Secret.Field
import OperatorConfig.Secret.Params

/-!
# Stored secrets

What an installation has stored is a table. If it has an entry under the name of any secret, its entries
are the secrets; if not, an entry `params` may hold them in one text; and otherwise nothing is stored.
A stored value takes the place of whatever the settings hold, because it is the value that the running
components were set up with. An empty stored value counts as none.
-/

namespace OperatorConfig

/-- Stored secrets, by layout. -/
inductive Bundle where
  | canonical (data : Table)
  | legacy (data : Table)
  | absent
deriving DecidableEq

namespace Bundle

/-- The entry that holds all secrets in one text. -/
def legacyName : String := "params"

def hasSecret (data : Table) : Bool :=
  SecretField.all.any fun field => data.contains field.name

/-- The secrets in stored data. -/
def ofData : Option Table → Bundle
  | none => .absent
  | some data =>
      if hasSecret data then .canonical data
      else
        match data.get? legacyName with
        | some blob => .legacy (Params.parse blob)
        | none => .absent

def data? : Bundle → Option Table
  | .canonical data => some data
  | .legacy data => some data
  | .absent => none

def get? (bundle : Bundle) (name : String) : Option String :=
  bundle.data?.bind (·.get? name)

/-- The settings with the stored value of a secret, where one is stored. -/
def applyField (bundle : Bundle) (s : Settings) (field : SecretField) : Settings :=
  match bundle.get? field.name with
  | some value => if value = "" then s else field.set value s
  | none => s

/-- The settings with every stored secret. -/
def apply (bundle : Bundle) (s : Settings) : Settings :=
  SecretField.all.foldl bundle.applyField s

end Bundle

end OperatorConfig
