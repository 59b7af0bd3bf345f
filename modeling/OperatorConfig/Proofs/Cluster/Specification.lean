import OperatorConfig.Cluster.Access
import OperatorConfig.CommandLine.Run
import OperatorConfig.Proofs.Inquiry
import OperatorConfig.Proofs.Settings.Acceptance
import OperatorConfig.Proofs.Settings.RoundTrip

/-!
# Two readings of a custom resource

The specification of a custom resource is read either with the resource, whose members are known, or on
its own from the members of a resource of any kind. Both hold the same overrides: where the first
succeeds so does the second, and an object is a specification where it is overrides.
-/

namespace OperatorConfig

open Schema (Shape Shaped Complaint faultless foldMembers)
open Json (Node Members)

/-! ### Specifications as values -/

namespace Schema

theorem Shape.decodeWithin_eq_error (outer : String) (shape : Shape) {value : Json}
    (hvalue : ∀ members, value ≠ .object members) :
    ∃ mismatch, shape.decodeWithin outer value = .error mismatch := by
  cases value with
  | object members => exact absurd rfl (hvalue members)
  | _ => cases shape <;> exact ⟨_, rfl⟩

/-- What is read of a record within a larger object is decoded from the value of that object. -/
theorem Shape.decodeWithin_of_readWithin {outer : String} {shape : Shape} {depth : Nat} {node : Node}
    {value : Json} (hvalue : node.value depth = .ok value) {x : shape.Value}
    (hread : shape.readWithin outer depth node = .ok x) : shape.decodeWithin outer value = .ok x := by
  cases Json.Node.holds_of_value hvalue with
  | @object depth start members values hmembers =>
      obtain ⟨held, hvalues, hread⟩ := bind_eq_ok_iff.mp hread
      rw [faultless_eq_ok_iff, hmembers] at hvalues
      cases hvalues
      split at hread
      next hdecode =>
        cases hread
        exact hdecode
      next => cases hread
  | _ => cases hread

end Schema

namespace Specification

theorem decode_eq_ok_iff {value : Json} {specification : Specification} :
    decode value = .ok specification ↔
      (Shaped.shape Platform).decodeWithin kind value
        = .ok (Shaped.toValue specification.overrides) := by
  rw [decode, map_eq_ok_iff, Schema.decodeWithin]
  simp only [map_eq_ok_iff]
  constructor
  · rintro ⟨_, ⟨held, hread, rfl⟩, rfl⟩
    rw [Shaped.toValue_ofValue]
    exact hread
  · intro hread
    exact ⟨_, ⟨_, hread, Shaped.ofValue_toValue _⟩, rfl⟩

/-- An object is a specification where it is overrides. -/
theorem decode_object_eq_ok_iff {members : List (String × Json)} {specification : Specification} :
    decode (.object members) = .ok specification ↔
      Platform.ofJson (.object members) = .ok specification.overrides := by
  rw [decode_eq_ok_iff, Platform.ofJson_eq_ok_iff, Schema.decode_eq_ok_iff_decode]
  rw [Shape.decodeWithin_object rfl]
  exact Shape.decode_eq_ok_congr Platform.separate .compared .counted

/-- What is read of an object as a specification is read of its canonical form as overrides. -/
theorem ofJson_canonical {value : Json} {specification : Specification}
    (hread : decode value = .ok specification) :
    Platform.ofJson value.canonical = .ok specification.overrides := by
  cases value with
  | object members =>
      rw [decode_object_eq_ok_iff, Platform.ofJson_eq_ok_iff, Schema.decode_eq_ok_iff_decode] at hread
      rw [Platform.ofJson_eq_ok_iff, Schema.decode_eq_ok_iff_decode]
      exact Shape.decode_canonical _ Platform.separate hread
  | _ => cases hread

theorem decode_eq_error {value : Json} (hvalue : ∀ members, value ≠ .object members) :
    ∃ mismatch, decode value = .error mismatch := by
  obtain ⟨mismatch, hrefused⟩ := (Shaped.shape Platform).decodeWithin_eq_error kind hvalue
  refine ⟨mismatch, ?_⟩
  rw [decode, Schema.decodeWithin, hrefused]
  rfl

/-- A specification that overrides nothing changes no settings. -/
theorem applySpecification_empty (s : Settings) : s.applySpecification {} = .ok s := by
  have hunset : Shaped.toValue ({} : Specification).settings = (Shaped.shape Settings).unset := rfl
  rw [Settings.applySpecification_eq, Schema.merge, hunset, Shape.merge_unset, Shaped.ofValue_toValue]

end Specification

theorem Platform.form_of_ofJson {value : Json} {overrides : Platform}
    (hread : Platform.ofJson value = .ok overrides) :
    (∃ members, value = .object members) ∨ ∃ items, value = .array items := by
  rw [Platform.ofJson_eq_ok_iff, Schema.decode_eq_ok_iff_decode] at hread
  cases value with
  | object members => exact .inl ⟨members, rfl⟩
  | array items => exact .inr ⟨items, rfl⟩
  | _ => cases hread

/-! ### Specifications in files -/

namespace CommandLine

variable {path : String} {document : List UInt8} {value : Yaml.Value} {json : Json}
  {specification : Specification}

theorem specificationOf_eq_ok_iff (hvalue : Yaml.ofBytes .jsonValues document = .ok value)
    (hjson : value.toJson = .ok json) :
    specificationOf path (.ok document) = .ok specification ↔
      Platform.ofJson json.canonical = .ok specification.overrides := by
  have hread : specificationOf path (.ok document)
      = (((Yaml.ofBytes .jsonValues document).mapError (.malformed path)).bind fun value =>
          (value.toJson.mapError (.unsuitable path)).bind fun json =>
            ((Platform.ofJson json.canonical).mapError .failure).bind fun overrides =>
              .ok ⟨overrides⟩) := rfl
  simp only [hread, bind_eq_ok_iff, mapError_eq_ok_iff, hvalue, hjson, Except.ok.injEq,
    exists_eq_left']
  constructor
  · rintro ⟨overrides, hoverrides, rfl⟩
    exact hoverrides
  · intro hoverrides
    exact ⟨_, hoverrides, rfl⟩

end CommandLine

/-! ### Specifications within resources -/

namespace Cluster

/-- The overrides in the specification of a resource of any kind. -/
def overridesIn (resource : Json) : Except Failure Platform :=
  Platform.ofJson ((resource.get? "spec").getD (.object []))

namespace Installation

/-- What has been read of the specification stands for what has been kept of it. -/
def Draft.Matches (draft : Draft) (others : List (String × Json)) : Prop :=
  match draft.specification with
  | none => others.filter (·.1 = "spec") = []
  | some specification =>
      ∃ value, others.filter (·.1 = "spec") = [("spec", value)] ∧
        Specification.decode value = .ok specification

variable {depth settled : Nat} {draft next : Draft} {key : String} {node : Node}

theorem Draft.specification_take (hkey : key ≠ "spec")
    (hread : draft.take depth key settled node = .ok next) :
    next.specification = draft.specification := by
  simp only [Draft.take] at hread
  split at hread
  · split at hread
    · cases hread
    · obtain ⟨metadata, -, hnext⟩ := bind_eq_ok_iff.mp hread
      cases hnext
      rfl
  · exact absurd rfl hkey
  · split at hread
    · cases hread
    · obtain ⟨status, -, hnext⟩ := bind_eq_ok_iff.mp hread
      cases hnext
      rfl
  · obtain ⟨-, -, hnext⟩ := bind_eq_ok_iff.mp hread
    cases hnext
    rfl

theorem Draft.take_spec {value : Json} (hvalue : node.value depth = .ok value)
    (hread : draft.take depth "spec" settled node = .ok next) :
    draft.specification = none ∧
      ∃ specification, next.specification = some specification ∧
        Specification.decode value = .ok specification := by
  simp only [Draft.take] at hread
  split at hread
  next => cases hread
  next hfirst =>
    obtain ⟨overrides, hoverrides, hnext⟩ := bind_eq_ok_iff.mp hread
    cases hnext
    refine ⟨by simpa using hfirst, _, rfl, Specification.decode_eq_ok_iff.mpr ?_⟩
    rw [Shaped.toValue_ofValue]
    exact Shape.decodeWithin_of_readWithin hvalue hoverrides

/-- Members of other keys leave what matches. -/
theorem Draft.Matches.of_ne {others : List (String × Json)} (hmatches : draft.Matches others)
    (hkey : key ≠ "spec") (value : Json) : draft.Matches (others ++ [(key, value)]) := by
  have hothers : (others ++ [(key, value)]).filter (·.1 = "spec") = others.filter (·.1 = "spec") := by
    rw [List.filter_append]
    simp [hkey]
  unfold Matches at hmatches ⊢
  rw [hothers]
  exact hmatches

/-- What a typed and an untyped reader keep of a member goes on to match. -/
theorem Draft.Matches.take {held kept : Bool × List (String × Json)} (hmatches : draft.Matches held.2)
    (hnext : draft.take depth key settled node = .ok next)
    (hkept : takeMember depth held key settled node = .ok kept) : next.Matches kept.2 := by
  obtain ⟨found, others⟩ := held
  -- The reader that knows the members takes a specification once only, so there is none before.
  by_cases hspec : key = "spec"
  · subst hspec
    obtain ⟨value, hvalue, hothers⟩ := bind_eq_ok_iff.mp hkept
    cases hothers
    obtain ⟨hfirst, specification, hheld, hdecoded⟩ :=
      Draft.take_spec (Schema.faultless_eq_ok_iff.mp hvalue) hnext
    have hothers : others.filter (·.1 = "spec") = [] := by
      unfold Matches at hmatches
      rw [hfirst] at hmatches
      exact hmatches
    unfold Matches
    rw [hheld]
    refine ⟨value, ?_, hdecoded⟩
    rw [List.filter_append, hothers]
    rfl
  · have hsame := Draft.specification_take hspec hnext
    have hmatches : next.Matches others := by
      unfold Matches
      rw [hsame]
      exact hmatches
    simp only [takeMember] at hkept
    split at hkept
    · split at hkept
      · cases hkept
      · obtain ⟨metadata, -, hothers⟩ := bind_eq_ok_iff.mp hkept
        cases hothers
        exact hmatches
    · obtain ⟨value, -, hothers⟩ := bind_eq_ok_iff.mp hkept
      cases hothers
      exact hmatches.of_ne hspec value

theorem Draft.Matches.foldMembers : (members : Members) → {draft after : Draft} →
    {held rest : Bool × List (String × Json)} → draft.Matches held.2 →
    Schema.foldMembers (Draft.take depth) draft members = .ok after →
    Schema.foldMembers (takeMember depth) held members = .ok rest → after.Matches rest.2
  | .close _, _, _, _, _, hmatches, hdraft, hheld => by
      cases hdraft
      cases hheld
      exact hmatches
  | .fault _ _, _, _, _, _, _, hdraft, _ => by cases hdraft
  | .member key settled node members, draft, after, held, rest, hmatches, hdraft, hheld => by
      obtain ⟨name, next, rfl, htaken, hdraft⟩ := Schema.foldMembers_member_eq_ok_iff.mp hdraft
      obtain ⟨_, kept, ⟨⟩, hkept, hheld⟩ := Schema.foldMembers_member_eq_ok_iff.mp hheld
      exact Draft.Matches.foldMembers members (hmatches.take htaken hkept) hdraft hheld

/-- The specification of a resource as it is, where that of the same resource has been read. -/
theorem Draft.Matches.get? {others : List (String × Json)} (hmatches : draft.Matches others)
    {specification : Specification} (hheld : draft.specification = some specification) :
    ∃ value, (Json.object others).canonical.get? "spec" = some value.canonical ∧
      Specification.decode value = .ok specification := by
  unfold Matches at hmatches
  rw [hheld] at hmatches
  obtain ⟨value, hothers, hdecoded⟩ := hmatches
  refine ⟨value, ?_, hdecoded⟩
  have hchosen := Json.filter_canonicalMembers (· = "spec") others
  rw [hothers] at hchosen
  rw [Json.canonical, Json.get?, ← Json.lookup_filter, hchosen]
  rfl

/-- Overrides that are read with a resource are also read from the resource as it is. -/
theorem overridesIn_of_readNode {installation : Installation} {resource : Json}
    (hinstallation : readNode node = .ok installation) (hresource : readObject node = .ok resource) :
    overridesIn resource = .ok installation.specification.overrides := by
  cases node with
  | object start members =>
      obtain ⟨draft, hdraft, hinstallation⟩ := bind_eq_ok_iff.mp hinstallation
      obtain ⟨⟨found, others⟩, hothers, hresource⟩ := bind_eq_ok_iff.mp hresource
      cases hresource
      have hstart : Draft.Matches {} [] := rfl
      have hmatches : draft.Matches others := Draft.Matches.foldMembers members hstart hdraft hothers
      have hheld : draft.specification = some installation.specification := by
        unfold Draft.complete at hinstallation
        split at hinstallation
        · cases hinstallation
        · cases hinstallation
        · cases hinstallation
          assumption
      obtain ⟨value, hvalue, hdecoded⟩ := hmatches.get? hheld
      rw [overridesIn, hvalue]
      exact Specification.ofJson_canonical hdecoded
  | _ =>
      simp only [readObject, Schema.unwanted_ne_ok] at hresource

end Installation

/-! ### Fetched specifications -/

section Fetching

variable (answer : (exchange : Exchange) → exchange.Answer) (namespaceName name : String)

def fetchResource : Wire (Except RequestFault Json) :=
  Wire.fetch (Reply.read readObject) (Request.about .get .installations namespaceName name)

theorem value_fetchSpecification {resource : Json}
    (hresource : (fetchResource namespaceName name).value answer = .ok resource) :
    (fetchSpecification namespaceName name).value answer = (overridesIn resource).map .mk := by
  rw [fetchSpecification, Inquiry.bind_eq_bind, Inquiry.value_bind]
  rw [fetchResource] at hresource
  rw [hresource]
  rfl

theorem fetchSpecification_eq_ok_iff {resource : Json} {members : List (String × Json)}
    (hresource : (fetchResource namespaceName name).value answer = .ok resource)
    (hmembers : resource.get? "spec" = some (.object members)) {specification : Specification} :
    (fetchSpecification namespaceName name).value answer = .ok specification ↔
      Specification.decode (.object members) = .ok specification := by
  rw [value_fetchSpecification answer _ _ hresource, Specification.decode_object_eq_ok_iff, overridesIn,
    hmembers, Option.getD_some, map_eq_ok_iff]
  constructor
  · rintro ⟨overrides, hread, rfl⟩
    exact hread
  · intro hread
    exact ⟨_, hread, rfl⟩

theorem fetchSpecification_of_get?_eq_none {resource : Json}
    (hresource : (fetchResource namespaceName name).value answer = .ok resource)
    (hmissing : resource.get? "spec" = none) :
    (fetchSpecification namespaceName name).value answer = .ok {} := by
  rw [value_fetchSpecification answer _ _ hresource, overridesIn, hmissing]
  rfl

end Fetching

/-- An object is a specification where it is overrides, and holds the same; no other value is a
specification, and of the others only arrays can be overrides. A file that holds an object is read as a
specification in the same way. A reader that knows the members of the custom resource finds in it the
overrides that are in the resource as it is. So a resolution comes to the same with the specification of
either reading, and without one nothing is overridden. -/
theorem readings_agree :
    (∀ members overrides, Specification.decode (.object members) = .ok ⟨overrides⟩ ↔
      Platform.ofJson (.object members) = .ok overrides) ∧
    (∀ value, (∀ members, value ≠ .object members) →
      (∃ mismatch, Specification.decode value = .error mismatch) ∧
        ∀ overrides, Platform.ofJson value = .ok overrides → ∃ items, value = .array items) ∧
    (∀ path document value json members, Yaml.ofBytes .jsonValues document = .ok value →
      value.toJson = .ok json → json.canonical = .object members →
        ∀ specification, CommandLine.specificationOf path (.ok document) = .ok specification ↔
          Specification.decode (.object members) = .ok specification) ∧
    (∀ node installation resource, Installation.readNode node = .ok installation →
      readObject node = .ok resource →
        overridesIn resource = .ok installation.specification.overrides) ∧
    (∀ answer namespaceName name resource,
      (fetchResource namespaceName name).value answer = .ok resource →
        (∀ members, resource.get? "spec" = some (.object members) →
          (∀ specification, (fetchSpecification namespaceName name).value answer = .ok specification ↔
            Specification.decode (.object members) = .ok specification) ∧
          ∀ reach env path content words answered outcome,
            (∃ specification, (fetchSpecification namespaceName name).value answer = .ok specification ∧
              (Resolution.resolveDocument reach namespaceName specification env path content words).value
                answered = outcome) ↔
            (∃ specification, Specification.decode (.object members) = .ok specification ∧
              (Resolution.resolveDocument reach namespaceName specification env path content words).value
                answered = outcome)) ∧
        (resource.get? "spec" = none →
          (fetchSpecification namespaceName name).value answer = .ok {})) ∧
    (∀ s : Settings, s.applySpecification {} = .ok s) := by
  refine ⟨fun members overrides => Specification.decode_object_eq_ok_iff, fun value hvalue => ?_,
    fun path document value json members hvalue hjson hmembers specification => ?_,
    fun node installation resource => Installation.overridesIn_of_readNode,
    fun answer namespaceName name resource hresource => ⟨fun members hmembers => ?_, ?_⟩,
    Specification.applySpecification_empty⟩
  · refine ⟨Specification.decode_eq_error hvalue, fun overrides hread => ?_⟩
    rcases Platform.form_of_ofJson hread with ⟨members, rfl⟩ | hitems
    · exact absurd rfl (hvalue members)
    · exact hitems
  · rw [CommandLine.specificationOf_eq_ok_iff hvalue hjson, hmembers,
      Specification.decode_object_eq_ok_iff]
  · have hfetched := fun specification => @fetchSpecification_eq_ok_iff answer namespaceName name
      resource members hresource hmembers specification
    refine ⟨hfetched, fun reach env path content words answered outcome => ?_⟩
    simp only [hfetched]
  · exact fetchSpecification_of_get?_eq_none answer namespaceName name hresource

/-- Either reading of a resource in which one field is set overrides this field. -/
theorem readings_agree_sha :
    ∃ node installation resource, Installation.readNode node = .ok installation ∧
      readObject node = .ok resource ∧
        overridesIn resource = .ok installation.specification.overrides ∧
          installation.specification.overrides.sha = true := by
  let specification : Node := .object 22 (.member (.ok "sha") 28 (.flag true ⟨29, 33⟩) (.close 34))
  let node : Node := .object 0 (.member (.ok "metadata") 11 (.object 12 (.close 14))
    (.member (.ok "spec") 21 specification (.close 35)))
  have hinstallation : Installation.readNode node = .ok ⟨⟨{ sha := true }⟩, none⟩ := rfl
  have hresource : readObject node = .ok (.object [("spec", .object [("sha", .flag true)])]) := rfl
  obtain ⟨-, -, -, hoverrides, -⟩ := readings_agree
  exact ⟨node, _, _, hinstallation, hresource, hoverrides _ _ _ hinstallation hresource, rfl⟩

end Cluster

end OperatorConfig
