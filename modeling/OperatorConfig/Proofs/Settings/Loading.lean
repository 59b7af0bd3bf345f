import Mathlib
import OperatorConfig.Settings.Loading

/-!
# Two ways to load a document

A document that is JSON is taken as the value it is; the check that the value is a mapping, and the
empty settings that null stands for, belong to the way through YAML. A mapping is loaded alike on both
ways. Null and those arrays whose items are settings in order are not: the first is loaded as YAML only,
the others as JSON only.
-/

namespace OperatorConfig

namespace Settings

/-! ### Loading -/

theorem load_eq (path : String) (content : Except FileFault (List UInt8)) :
    load path content
      = (content.mapError .file >>= ofDocument).mapError fun fault => .load path fault.message := by
  unfold load
  cases content.mapError LoadFault.file >>= ofDocument <;> rfl

theorem load_eq_error {path : String} {content : Except FileFault (List UInt8)} {failure : Failure}
    (hload : load path content = .error failure) : ∃ detail, failure = .load path detail := by
  unfold load at hload
  split at hload
  · cases hload
  · cases hload
    exact ⟨_, rfl⟩

/-! ### The way through YAML -/

/-- The settings that a document holds where it is read as YAML, even if it is JSON. -/
def loadYaml (document : List UInt8) : Except Failure Settings :=
  (valueOfYaml document >>= ofValue).mapError fun fault => .load inMemory fault.message

variable {document : List UInt8} {value : Json} {yaml : Yaml.Value}

theorem loadBytes_of_json (hjson : Json.ofBytes document = .ok value) :
    loadBytes document = (ofValue value).mapError fun fault => .load inMemory fault.message := by
  have hdocument : ofDocument document = ofValue value := by
    rw [ofDocument, valueOf, hjson]
    rfl
  rw [loadBytes, load_eq, ← hdocument]
  rfl

theorem loadYaml_of_yaml (hyaml : Yaml.ofBytes .values document = .ok yaml) :
    loadYaml document
      = (objectOfYaml yaml >>= ofValue).mapError fun fault => .load inMemory fault.message := by
  rw [loadYaml, valueOfYaml, hyaml]
  rfl

def mapping : Json → Except LoadFault Json
  | .object members => .ok (.object members)
  | _ => .error .notMapping

/-- Apart from null a YAML value stands for its JSON value, which has to be a mapping. -/
theorem objectOfYaml_eq (hnull : yaml ≠ .null)
    (hsame : yaml.toJson.map Json.canonical = .ok value) : objectOfYaml yaml = mapping value := by
  have hchecked : objectOfYaml yaml
      = (yaml.toJson.mapError .conversion).bind fun json =>
          match json with
          | .object members => .ok (Json.object members).canonical
          | _ => .error .notMapping := by
    cases yaml with
    | null => exact absurd rfl hnull
    | _ => rfl
  rw [hchecked]
  cases hread : yaml.toJson with
  | error obstacle =>
      rw [hread] at hsame
      cases hsame
  | ok json =>
      rw [hread] at hsame
      cases hsame
      cases json <;> simp [Except.mapError, Except.bind, mapping, Json.canonical]

theorem ofValue_eq_error (hobject : value.members? = none) (harray : value.items? = none) :
    ∃ fault, ofValue value = .error fault := by
  cases value with
  | object members => cases hobject
  | array items => cases harray
  | null => exact ⟨_, rfl⟩
  | flag on => exact ⟨_, rfl⟩
  | number n => exact ⟨_, rfl⟩
  | text held => exact ⟨_, rfl⟩

/-! ### Where both ways lead to the same -/

/-- Two attempts to load come to the same: the same settings, or a failure to load on both sides. -/
def SameOutcome : Except Failure Settings → Except Failure Settings → Prop
  | .ok s, .ok other => s = other
  | .error (.load _ _), .error (.load _ _) => True
  | _, _ => False

theorem sameOutcome_self (document : List UInt8) :
    SameOutcome (loadBytes document) (loadBytes document) := by
  cases hload : loadBytes document with
  | ok s => rfl
  | error failure =>
      obtain ⟨detail, rfl⟩ := load_eq_error hload
      trivial

/-- What fails on one way comes to the same on the other just where it fails there too. -/
theorem sameOutcome_error_iff (document : List UInt8) (path detail : String) :
    SameOutcome (loadBytes document) (.error (.load path detail)) ↔
      ∀ s, loadBytes document ≠ .ok s := by
  cases hload : loadBytes document with
  | ok s => simp [SameOutcome]
  | error failure =>
      obtain ⟨told, rfl⟩ := load_eq_error hload
      simp [SameOutcome]

section Same

variable (hjson : Json.ofBytes document = .ok value)
  (hyaml : Yaml.ofBytes .values document = .ok yaml)
  (hsame : yaml.toJson.map Json.canonical = .ok value)

include hjson hyaml hsame

theorem loadBytes_null (hnull : yaml = .null) :
    loadYaml document = .ok default ∧
      ∃ detail, loadBytes document = .error (.load inMemory detail) := by
  subst hnull
  cases hsame
  refine ⟨?_, ?_⟩
  · rw [loadYaml_of_yaml hyaml]
    rfl
  · rw [loadBytes_of_json hjson]
    exact ⟨_, rfl⟩

theorem loadBytes_object {members : List (String × Json)} (hobject : value = .object members) :
    loadBytes document = loadYaml document := by
  subst hobject
  have hnull : yaml ≠ .null := by
    rintro rfl
    cases hsame
  rw [loadBytes_of_json hjson, loadYaml_of_yaml hyaml, objectOfYaml_eq hnull hsame]
  rfl

theorem loadBytes_array {items : List Json} (harray : value = .array items) :
    loadYaml document = .error (.load inMemory LoadFault.notMapping.message) ∧
      ∀ s, loadBytes document = .ok s ↔ ofValue value = .ok s := by
  have hnull : yaml ≠ .null := by
    rintro rfl
    rw [harray] at hsame
    cases hsame
  refine ⟨?_, fun s => ?_⟩
  · rw [loadYaml_of_yaml hyaml, objectOfYaml_eq hnull hsame, harray]
    rfl
  · rw [loadBytes_of_json hjson]
    cases ofValue value <;> simp [Except.mapError]

theorem loadBytes_scalar (hobject : value.members? = none) (harray : value.items? = none)
    (hnull : yaml ≠ .null) :
    loadYaml document = .error (.load inMemory LoadFault.notMapping.message) ∧
      ∃ detail, loadBytes document = .error (.load inMemory detail) := by
  have hmapping : mapping value = .error .notMapping := by
    cases value with
    | object members => cases hobject
    | _ => rfl
  obtain ⟨fault, hfault⟩ := ofValue_eq_error hobject harray
  refine ⟨?_, ?_⟩
  · rw [loadYaml_of_yaml hyaml, objectOfYaml_eq hnull hsame, hmapping]
    rfl
  · rw [loadBytes_of_json hjson, hfault]
    exact ⟨_, rfl⟩

end Same

/-- Where a document is the same value as JSON and as YAML, it is loaded alike on both ways unless it is
null or an array whose items are settings in order. Null is loaded as YAML only, as empty settings; such
an array as JSON only. Objects are loaded alike with the very same failures, and what is none of these
is refused on both ways. -/
theorem loadBytes_sameOutcome_iff (hjson : Json.ofBytes document = .ok value)
    (hyaml : Yaml.ofBytes .values document = .ok yaml)
    (hsame : yaml.toJson.map Json.canonical = .ok value) :
    (SameOutcome (loadBytes document) (loadYaml document) ↔
      yaml ≠ .null ∧ ∀ items, value = .array items → ∀ s, ofValue value ≠ .ok s) ∧
    (∀ members, value = .object members → loadBytes document = loadYaml document) ∧
    (∀ items, value = .array items →
      loadYaml document = .error (.load inMemory LoadFault.notMapping.message) ∧
      ∀ s, loadBytes document = .ok s ↔ ofValue value = .ok s) ∧
    (yaml = .null →
      loadYaml document = .ok default ∧
      ∃ detail, loadBytes document = .error (.load inMemory detail)) ∧
    (value.members? = none → value.items? = none → yaml ≠ .null →
      loadYaml document = .error (.load inMemory LoadFault.notMapping.message) ∧
      ∃ detail, loadBytes document = .error (.load inMemory detail)) := by
  refine ⟨?_, fun members => loadBytes_object hjson hyaml hsame,
    fun items => loadBytes_array hjson hyaml hsame, loadBytes_null hjson hyaml hsame,
    loadBytes_scalar hjson hyaml hsame⟩
  by_cases hnull : yaml = .null
  · obtain ⟨hloaded, detail, hfailed⟩ := loadBytes_null hjson hyaml hsame hnull
    rw [hloaded, hfailed]
    simp [SameOutcome, hnull]
  refine Iff.trans ?_ (and_iff_right hnull).symm
  cases value with
  | object members =>
      rw [← loadBytes_object hjson hyaml hsame rfl]
      simp [sameOutcome_self]
  | array items =>
      obtain ⟨hrefused, hloaded⟩ := loadBytes_array hjson hyaml hsame rfl
      rw [hrefused, sameOutcome_error_iff]
      simp [hloaded]
  | _ =>
      obtain ⟨hrefused, detail, hfailed⟩ := loadBytes_scalar hjson hyaml hsame rfl rfl hnull
      rw [hrefused, hfailed]
      simp [SameOutcome]

def versionDocument : List UInt8 := Text.bytes "\x7b\"version\":\"1.9\"\x7d"

/-- A document with one setting is the same value as JSON and as YAML, and loaded alike on both ways. -/
theorem loadBytes_sameOutcome_version :
    Json.ofBytes versionDocument
        = .ok (.object [("version", .text "1.9")]) ∧
      Yaml.ofBytes .values versionDocument
        = .ok (.mapping [(.text "version", .text "1.9")]) ∧
      SameOutcome (loadBytes versionDocument)
        (loadYaml versionDocument) := by
  have hjson : Json.ofBytes versionDocument
      = .ok (.object [("version", .text "1.9")]) := by cbv
  have hyaml : Yaml.ofBytes .values versionDocument
      = .ok (.mapping [(.text "version", .text "1.9")]) := by cbv
  have hloaded := loadBytes_sameOutcome_iff hjson hyaml (by rfl)
  exact ⟨hjson, hyaml, hloaded.1.mpr ⟨by simp, by simp⟩⟩

/-- An empty array is loaded as JSON although it is no mapping, and null is refused although it stands
for no settings. -/
theorem loadBytes_emptyArray_null :
    loadBytes (Text.bytes "[]") = .ok default ∧
      loadYaml (Text.bytes "[]")
        = .error (.load inMemory "default configuration must be a mapping at the top level") ∧
      ¬ SameOutcome (loadBytes (Text.bytes "[]")) (loadYaml (Text.bytes "[]")) ∧
      loadYaml (Text.bytes "null") = .ok default ∧
      ¬ SameOutcome (loadBytes (Text.bytes "null")) (loadYaml (Text.bytes "null")) := by
  have harray : Json.ofBytes (Text.bytes "[]") = .ok (.array []) := by cbv
  have hsequence : Yaml.ofBytes .values (Text.bytes "[]") = .ok (.sequence []) := by cbv
  have hnull : Json.ofBytes (Text.bytes "null") = .ok .null := by cbv
  have hnothing : Yaml.ofBytes .values (Text.bytes "null") = .ok .null := by cbv
  have hloaded : loadBytes (Text.bytes "[]") = .ok default := by
    rw [loadBytes_of_json harray]
    rfl
  obtain ⟨hrefused, -⟩ := loadBytes_array harray hsequence rfl rfl
  obtain ⟨hempty, detail, hfailed⟩ := loadBytes_null hnull hnothing rfl rfl
  refine ⟨hloaded, hrefused, ?_, hempty, ?_⟩
  · rw [hloaded, hrefused]
    exact id
  · rw [hempty, hfailed]
    exact id

end Settings

end OperatorConfig
