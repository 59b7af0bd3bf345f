import OperatorConfig.Secret.Bundle
import OperatorConfig.Secret.Words

/-!
# Provisioning of secrets

Secrets are first taken from what is stored, and then every secret that is still empty is generated. A
secret that has a value is never generated again, which keeps repeated resolutions stable.
-/

namespace OperatorConfig

namespace Settings

def missingSecrets (s : Settings) : List SecretField :=
  SecretField.all.filter fun field => field.get s = ""

/-- Generates a secret that has no value. -/
def generate (state : Settings × Words) (field : SecretField) : Settings × Words :=
  let (s, words) := state
  if field.get s = "" then
    let (value, words) := words.password field.length
    (field.set value s, words)
  else (s, words)

def generateMissing (s : Settings) (words : Words) : Settings × Words :=
  SecretField.all.foldl generate (s, words)

/-- The settings with the secrets that are stored and, for all others, generated ones. -/
def provision (stored : Option Table) (s : Settings) (words : Words) : Settings × Words :=
  ((Bundle.ofData stored).apply s).generateMissing words

end Settings

end OperatorConfig
