import OperatorConfig.Settings.Overrides
import OperatorConfig.Url.Reading

/-!
# An external database

Where an external database is configured its URL takes the place of that of the managed one. A URL
without a path gets the name of the database as its path.
-/

namespace OperatorConfig

/-- The URL with the name as its path, where it has none. -/
def Url.withDatabase (url : Url) (name : String) : Url :=
  if url.path = "" ∨ url.path = "/" then url.withPath ("/" ++ name) else url

namespace Settings

/-- The URL of the external database, if one is configured. -/
def externalUrl? (s : Settings) : Except Failure (Option Url) :=
  let written := s.platform.components.database.externalUrl
  if written = "" then .ok none
  else
    match Url.ofText written with
    | .ok url => .ok (some (url.withDatabase s.platform.components.database.name))
    | .error fault =>
        .error (.configuration
          ("invalid external database URL " ++ Text.quoted written ++ ": " ++ fault.message))

/-- The settings with the connection to the external database, if one is configured. -/
def applyExternalDatabase (s : Settings) : Except Failure Settings := do
  match ← s.externalUrl? with
  | some url => return { s with platform.components.database.url := url.text }
  | none => return s

end Settings

end OperatorConfig
