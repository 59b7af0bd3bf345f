import OperatorConfig.Settings.External

/-!
# Where an external database comes in

The stage of the external database touches the URL of the database and nothing else, and what it does
depends on the name of the database and the URL that is configured for the external one.
-/

namespace OperatorConfig.Settings

def withExternal (url? : Option Url) (s : Settings) : Settings :=
  { s with
    platform.components.database.url := url?.elim s.platform.components.database.url Url.text }

variable (s : Settings)

theorem applyExternalDatabase_eq :
    s.applyExternalDatabase = s.externalUrl?.map fun url? => s.withExternal url? := by
  unfold applyExternalDatabase
  cases s.externalUrl? with
  | error failure => rfl
  | ok url? => cases url? <;> rfl

theorem externalUrl?_eq_none_iff :
    s.externalUrl? = .ok none ↔ s.platform.components.database.externalUrl = "" := by
  unfold externalUrl?
  by_cases hempty : s.platform.components.database.externalUrl = ""
  · simp [hempty]
  · simp only [hempty, iff_false]
    cases Url.ofText s.platform.components.database.externalUrl <;> simp

/-- An external database is reached at its configured URL, with the name of the database where that URL
has no path. -/
theorem externalUrl?_eq_some_iff (url : Url) :
    s.externalUrl? = .ok (some url) ↔
      s.platform.components.database.externalUrl ≠ "" ∧
        ∃ configured, Url.ofText s.platform.components.database.externalUrl = .ok configured ∧
          configured.withDatabase s.platform.components.database.name = url := by
  unfold externalUrl?
  by_cases hempty : s.platform.components.database.externalUrl = ""
  · simp [hempty]
  · simp only [ne_eq, hempty, not_false_eq_true, true_and]
    cases Url.ofText s.platform.components.database.externalUrl <;> simp

/-- The configured URL of an external database is all that can be wrong about it. -/
theorem externalUrl?_eq_error_iff (failure : Failure) :
    s.externalUrl? = .error failure ↔
      s.platform.components.database.externalUrl ≠ "" ∧
        ∃ fault, Url.ofText s.platform.components.database.externalUrl = .error fault ∧
          failure = .configuration ("invalid external database URL "
            ++ Text.quoted s.platform.components.database.externalUrl ++ ": " ++ fault.message) := by
  unfold externalUrl?
  by_cases hempty : s.platform.components.database.externalUrl = ""
  · simp [hempty]
  · simp only [ne_eq, hempty, not_false_eq_true, true_and]
    cases Url.ofText s.platform.components.database.externalUrl <;> simp [eq_comm]

end OperatorConfig.Settings
