import OperatorConfig.Proofs.Session.Stages
import OperatorConfig.Proofs.Settings.External
import OperatorConfig.Proofs.Url.Legible

/-!
# The connection to an external database

What the stage of the external database writes is the configured URL, with the name of the database for a
path that says nothing, and it writes nothing else. Whoever takes the written URL apart finds the scheme,
the credentials, the host, the port, the query and the fragment that were configured, whatever the name is
made of.
-/

namespace OperatorConfig

namespace Url

variable (url : Url) (name : String)

/-- A name for a path leaves the other parts alone. -/
theorem withDatabase_eq : url.withDatabase name = { url with path := (url.withDatabase name).path } := by
  unfold withDatabase
  split
  · unfold withPath
    split <;> rfl
  · rfl

theorem Legible.withDatabase {url : Url} {parts : Authority} (h : url.Legible parts) :
    (url.withDatabase name).Legible parts := by
  unfold Url.withDatabase
  split
  · exact h.withPath ("/" ++ name)
  · exact h

theorem path_withDatabase_of_path {url : Url} (hempty : url.path ≠ "") (hslash : url.path ≠ "/") :
    (url.withDatabase name).path = url.path := by
  rw [withDatabase, if_neg (not_or.mpr ⟨hempty, hslash⟩)]

theorem path_withDatabase_of_isNameChar {url : Url} {parts : Authority} (h : url.authority = some parts)
    (hpath : url.path = "" ∨ url.path = "/") {name : String} (hne : name ≠ "")
    (hname : ∀ c ∈ name.toList, Path.isNameChar c = true) : (url.withDatabase name).path = "/" ++ name := by
  rw [withDatabase, if_pos hpath]
  exact path_withPath_of_isNameChar (isOpaque_of_authority h) hne hname

end Url

namespace Settings

variable (s : Settings)

theorem applyExternalDatabase_of_empty (h : s.platform.components.database.externalUrl = "") :
    s.applyExternalDatabase = .ok s := by
  rw [applyExternalDatabase_eq, s.externalUrl?_eq_none_iff.mpr h]
  rfl

theorem applyExternalDatabase_of_fault (hne : s.platform.components.database.externalUrl ≠ "") {fault : UrlFault}
    (h : Url.ofText s.platform.components.database.externalUrl = .error fault) :
    s.applyExternalDatabase = .error (.configuration ("invalid external database URL "
      ++ Text.quoted s.platform.components.database.externalUrl ++ ": " ++ fault.message)) := by
  have hfailure := (s.externalUrl?_eq_error_iff _).mpr ⟨hne, fault, h, rfl⟩
  rw [applyExternalDatabase_eq, hfailure]
  rfl

theorem applyExternalDatabase_of_configured (hne : s.platform.components.database.externalUrl ≠ "")
    {configured : Url} (h : Url.ofText s.platform.components.database.externalUrl = .ok configured) :
    s.applyExternalDatabase = .ok { s with
      platform.components.database.url :=
        (configured.withDatabase s.platform.components.database.name).text } := by
  have hurl := (s.externalUrl?_eq_some_iff _).mpr ⟨hne, configured, h, rfl⟩
  rw [applyExternalDatabase_eq, hurl]
  rfl

/-- Where the stage fails in place, the session stays as it was. -/
theorem take_connectExternal_of_failure {failure : Failure} (h : s.applyExternalDatabase = .error failure)
    (words : Words) (answer : (q : Question) → q.Answer) :
    ((Session.mk s words).take .connectExternal).value answer = (some failure, ⟨s, words⟩) := by
  have htake := (Session.mk s words).value_take_stage answer .connectExternal
  have hresult : Stage.connectExternal.result answer ⟨s, words⟩ = (.error failure, words) :=
    congrArg (·, words) h
  rw [hresult] at htake
  exact htake

variable {s}

theorem externalUrl?_congr {other : Settings}
    (hurl : other.platform.components.database.externalUrl = s.platform.components.database.externalUrl)
    (hname : other.platform.components.database.name = s.platform.components.database.name) :
    other.externalUrl? = s.externalUrl? := by
  simp only [externalUrl?, hurl, hname]

theorem url_congr {other : Settings} (hne : s.platform.components.database.externalUrl ≠ "")
    (hurl : other.platform.components.database.externalUrl = s.platform.components.database.externalUrl)
    (hname : other.platform.components.database.name = s.platform.components.database.name) :
    other.applyExternalDatabase.map (·.platform.components.database.url)
      = s.applyExternalDatabase.map (·.platform.components.database.url) := by
  rw [applyExternalDatabase_eq, applyExternalDatabase_eq, externalUrl?_congr hurl hname]
  cases hresult : s.externalUrl? with
  | error failure => rfl
  | ok url? =>
      cases url? with
      | none => exact absurd (s.externalUrl?_eq_none_iff.mp hresult) hne
      | some url => rfl

theorem applyExternalDatabase_applyExternalDatabase {after : Settings} (h : s.applyExternalDatabase = .ok after) :
    after.applyExternalDatabase = .ok after := by
  rw [applyExternalDatabase_eq] at h ⊢
  obtain ⟨url?, hurl, rfl⟩ := map_eq_ok_iff.mp h
  have hsame : (s.withExternal url?).externalUrl? = s.externalUrl? := externalUrl?_congr rfl rfl
  rw [hsame, hurl]
  cases url? <;> rfl

/-- Without a URL for an external database nothing changes, one that is none is a failure of the configuration
that leaves the settings as they are, and any other one becomes the URL of the database, which depends on it
and on the name of the database alone. The name becomes the path exactly where there is no other path; what
is written behind an authority can be taken apart again, into the parts that were configured and a path that
is the name itself, if the name is made of letters, digits, underscores and hyphens. -/
theorem applyExternalDatabase_normalizes (s : Settings) :
    (s.platform.components.database.externalUrl = "" → s.applyExternalDatabase = .ok s) ∧
    (s.platform.components.database.externalUrl ≠ "" →
      (∀ fault, Url.ofText s.platform.components.database.externalUrl = .error fault →
        ∃ message, s.applyExternalDatabase = .error (.configuration message) ∧
          ∀ words answer, ((Session.mk s words).take .connectExternal).value answer
            = (some (.configuration message), ⟨s, words⟩)) ∧
      (∀ configured, Url.ofText s.platform.components.database.externalUrl = .ok configured →
        ∃ written,
          s.applyExternalDatabase = .ok { s with platform.components.database.url := written.text } ∧
          written = (if configured.path = "" ∨ configured.path = "/"
            then configured.withPath ("/" ++ s.platform.components.database.name) else configured) ∧
          ∀ authority, configured.authority = some authority →
            Url.takenApart? written.text = some written ∧
            written.scheme = configured.scheme ∧ written.authority = some authority ∧
            written.query = configured.query ∧ written.fragment = configured.fragment ∧
            (configured.path ≠ "" → configured.path ≠ "/" → written.path = configured.path) ∧
            (configured.path = "" ∨ configured.path = "/" →
              s.platform.components.database.name ≠ "" →
              (∀ c ∈ s.platform.components.database.name.toList, c.isAlphanum = true ∨ c = '_' ∨ c = '-') →
              written.path = "/" ++ s.platform.components.database.name)) ∧
      ∀ other : Settings,
        other.platform.components.database.externalUrl = s.platform.components.database.externalUrl →
        other.platform.components.database.name = s.platform.components.database.name →
        other.applyExternalDatabase.map (·.platform.components.database.url)
          = s.applyExternalDatabase.map (·.platform.components.database.url)) ∧
    ∀ after, s.applyExternalDatabase = .ok after → after.applyExternalDatabase = .ok after := by
  refine ⟨s.applyExternalDatabase_of_empty, fun hne => ⟨?fault, ?configured, ?url⟩, ?twice⟩
  case fault =>
    intro fault hfault
    have hfailure := s.applyExternalDatabase_of_fault hne hfault
    exact ⟨_, hfailure, s.take_connectExternal_of_failure hfailure⟩
  case configured =>
    intro configured hconfigured
    refine ⟨_, s.applyExternalDatabase_of_configured hne hconfigured, rfl, ?_⟩
    intro authority hauthority
    have hlegible := (Url.legible_ofText hconfigured hauthority).withDatabase s.platform.components.database.name
    have hframe := configured.withDatabase_eq s.platform.components.database.name
    refine ⟨hlegible.takenApart?_text, ?scheme, hlegible.authority, ?query, ?fragment,
      Url.path_withDatabase_of_path _, ?name⟩
    case scheme => rw [hframe]
    case query => rw [hframe]
    case fragment => rw [hframe]
    case name =>
      intro hpath hname hchars
      refine Url.path_withDatabase_of_isNameChar hauthority hpath hname ?_
      intro c hc
      simpa [Url.Path.isNameChar, or_assoc] using hchars c hc
  case url =>
    intro other hurl hname
    exact url_congr hne hurl hname
  case twice =>
    intro after hafter
    exact applyExternalDatabase_applyExternalDatabase hafter

example : (Url.ofText "postgresql://app@db:5432?sslmode=require").map (fun url => (url.withDatabase "fuse").text)
    = .ok "postgresql://app@db:5432/fuse?sslmode=require" := by
  cbv

end Settings

end OperatorConfig
