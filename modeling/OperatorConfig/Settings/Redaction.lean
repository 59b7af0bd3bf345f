import OperatorConfig.Settings.Tree

/-!
# Settings that may be shown

A copy of the settings in which a mark stands for every secret that has a value. An empty secret stays
empty, because its absence is no secret. The places are written out here once more, apart from those at
which secrets are provisioned.
-/

namespace OperatorConfig

def redactionMark : String := "[REDACTED]"

def redact (value : String) : String := if value = "" then value else redactionMark

/-- The settings with the mark for every secret. -/
def Settings.redacted (s : Settings) : Settings :=
  { s with
    oauthClientSecret := redact s.oauthClientSecret
    platform.components.oauth.cookieSecret := redact s.platform.components.oauth.cookieSecret
    platform.components.database.password := redact s.platform.components.database.password
    platform.components.database.sampleDatabasePassword :=
      redact s.platform.components.database.sampleDatabasePassword
    platform.components.server.encryptKey := redact s.platform.components.server.encryptKey
    platform.components.server.stateAuthenticationKey :=
      redact s.platform.components.server.stateAuthenticationKey
    platform.components.server.stateEncryptionKey :=
      redact s.platform.components.server.stateEncryptionKey }

end OperatorConfig
