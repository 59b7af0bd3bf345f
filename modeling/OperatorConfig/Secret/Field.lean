import OperatorConfig.Settings.Tree

/-!
# The secrets of an installation

Seven secrets, each with the name under which it is stored, its place in the settings, and the length
at which it is generated.
-/

namespace OperatorConfig

inductive SecretField where
  | oauthClientSecret
  | databasePassword
  | sampleDatabasePassword
  | cookieSecret
  | encryptKey
  | stateAuthenticationKey
  | stateEncryptionKey
deriving DecidableEq

namespace SecretField

/-- Every secret, in the order in which they are provisioned. -/
def all : List SecretField :=
  [.oauthClientSecret, .databasePassword, .sampleDatabasePassword, .cookieSecret, .encryptKey,
    .stateAuthenticationKey, .stateEncryptionKey]

def name : SecretField → String
  | .oauthClientSecret => "OPENSHIFT_OAUTH_CLIENT_SECRET"
  | .databasePassword => "POSTGRESQL_PASSWORD"
  | .sampleDatabasePassword => "POSTGRESQL_SAMPLEDB_PASSWORD"
  | .cookieSecret => "OAUTH_COOKIE_SECRET"
  | .encryptKey => "SYNDESIS_ENCRYPT_KEY"
  | .stateAuthenticationKey => "CLIENT_STATE_AUTHENTICATION_KEY"
  | .stateEncryptionKey => "CLIENT_STATE_ENCRYPTION_KEY"

def ofName? (name : String) : Option SecretField :=
  all.find? (·.name = name)

def length : SecretField → Nat
  | .oauthClientSecret => 64
  | .encryptKey => 64
  | .databasePassword => 16
  | .sampleDatabasePassword => 16
  | .cookieSecret => 32
  | .stateAuthenticationKey => 32
  | .stateEncryptionKey => 32

/-- The length at which a value stored under a name is generated; 32 where the name is no secret. -/
def lengthOf (name : String) : Nat :=
  match ofName? name with
  | some field => field.length
  | none => 32

def get (field : SecretField) (s : Settings) : String :=
  match field with
  | .oauthClientSecret => s.oauthClientSecret
  | .databasePassword => s.platform.components.database.password
  | .sampleDatabasePassword => s.platform.components.database.sampleDatabasePassword
  | .cookieSecret => s.platform.components.oauth.cookieSecret
  | .encryptKey => s.platform.components.server.encryptKey
  | .stateAuthenticationKey => s.platform.components.server.stateAuthenticationKey
  | .stateEncryptionKey => s.platform.components.server.stateEncryptionKey

def set (field : SecretField) (value : String) (s : Settings) : Settings :=
  match field with
  | .oauthClientSecret => { s with oauthClientSecret := value }
  | .databasePassword => { s with platform.components.database.password := value }
  | .sampleDatabasePassword =>
      { s with platform.components.database.sampleDatabasePassword := value }
  | .cookieSecret => { s with platform.components.oauth.cookieSecret := value }
  | .encryptKey => { s with platform.components.server.encryptKey := value }
  | .stateAuthenticationKey => { s with platform.components.server.stateAuthenticationKey := value }
  | .stateEncryptionKey => { s with platform.components.server.stateEncryptionKey := value }

theorem mem_all (field : SecretField) : field ∈ all := by
  cases field <;> decide

@[simp] theorem get_set (field : SecretField) (value : String) (s : Settings) :
    field.get (field.set value s) = value := by
  cases field <;> rfl

theorem get_set_ne {field other : SecretField} (h : field ≠ other) (value : String) (s : Settings) :
    field.get (other.set value s) = field.get s := by
  cases field <;> cases other <;> first | rfl | exact absurd rfl h

@[simp] theorem set_get (field : SecretField) (s : Settings) : field.set (field.get s) s = s := by
  cases field <;> rfl

end SecretField

end OperatorConfig
