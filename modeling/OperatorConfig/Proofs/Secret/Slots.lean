import OperatorConfig.Secret.Field
import OperatorConfig.Settings.Redaction

/-!
# The seven secrets as one part of the settings

Settings fall into their seven secrets and all the rest. `fill` puts in seven new secrets and leaves the
rest as it is, so two settings are equal once they have the same secrets and agree after a `fill`. A stage
that only sets secrets disappears under a `fill`, which is how the rest is known to be untouched.
-/

namespace OperatorConfig

namespace SecretField

variable (values : SecretField → String)

/-- The settings with all secrets new. -/
def fill (values : SecretField → String) (s : Settings) : Settings :=
  { s with
    oauthClientSecret := values .oauthClientSecret
    platform.components.database.password := values .databasePassword
    platform.components.database.sampleDatabasePassword := values .sampleDatabasePassword
    platform.components.oauth.cookieSecret := values .cookieSecret
    platform.components.server.encryptKey := values .encryptKey
    platform.components.server.stateAuthenticationKey := values .stateAuthenticationKey
    platform.components.server.stateEncryptionKey := values .stateEncryptionKey }

@[simp] theorem get_fill (field : SecretField) (s : Settings) :
    field.get (fill values s) = values field := by
  cases field <;> rfl

@[simp] theorem fill_set (field : SecretField) (value : String) (s : Settings) :
    fill values (field.set value s) = fill values s := by
  cases field <;> rfl

@[simp] theorem fill_fill (others : SecretField → String) (s : Settings) :
    fill values (fill others s) = fill values s := rfl

/-- Settings with the same secrets and the same rest are equal. -/
theorem eq_of_fill {a b : Settings} (hrest : fill values a = fill values b)
    (hsecrets : ∀ field : SecretField, field.get a = field.get b) : a = b := by
  calc
    a = fill (fun field => field.get a) (fill values a) := rfl
    _ = fill (fun field => field.get b) (fill values b) := by rw [hrest, funext hsecrets]
    _ = b := rfl

variable {values}

/-- Which values stand in for the secrets makes no difference to what else agrees. -/
theorem fill_congr {a b : Settings} (h : fill values a = fill values b)
    (others : SecretField → String) : fill others a = fill others b := by
  calc
    fill others a = fill others (fill values a) := rfl
    _ = fill others (fill values b) := by rw [h]
    _ = fill others b := rfl

/-- Changing secrets one after another, each by its own value alone, fills them with the changed values. -/
theorem foldl_eq_fill (change : SecretField → String → String)
    {step : Settings → SecretField → Settings}
    (hstep : ∀ s field, step s field = field.set (change field (field.get s)) s)
    (hagain : ∀ field value, change field (change field value) = change field value)
    (fields : List SecretField) (s : Settings) :
    fields.foldl step s
      = fill (fun field => if field ∈ fields then change field (field.get s) else field.get s) s := by
  induction fields generalizing s with
  | nil => rfl
  | cons head rest ih =>
      rw [List.foldl_cons, ih, hstep, fill_set]
      refine congrArg (fill · s) (funext fun field => ?_)
      simp only [List.mem_cons]
      by_cases heq : field = head
      · subst heq
        simp [hagain]
      · simp [heq, get_set_ne heq]

theorem foldl_all_eq_fill (change : SecretField → String → String)
    {step : Settings → SecretField → Settings}
    (hstep : ∀ s field, step s field = field.set (change field (field.get s)) s)
    (hagain : ∀ field value, change field (change field value) = change field value)
    (s : Settings) : all.foldl step s = fill (fun field => change field (field.get s)) s := by
  rw [foldl_eq_fill change hstep hagain]
  simp only [mem_all, if_true]

end SecretField

/-! ### Redaction -/

theorem redact_eq (value : String) : redact value = if value = "" then "" else redactionMark :=
  ite_congr rfl id fun _ => rfl

theorem redact_redact (value : String) : redact (redact value) = redact value := by
  unfold redact
  by_cases hempty : value = ""
  · rw [if_pos hempty, if_pos hempty]
  · rw [if_neg hempty, if_neg (by decide)]

namespace Settings

/-- The places of the marks are those at which secrets are provisioned. -/
theorem redacted_eq_fill (s : Settings) :
    s.redacted = SecretField.fill (fun field => redact (field.get s)) s := rfl

theorem get_redacted (s : Settings) (field : SecretField) :
    field.get s.redacted = redact (field.get s) := by
  rw [redacted_eq_fill, SecretField.get_fill]

end Settings

end OperatorConfig
