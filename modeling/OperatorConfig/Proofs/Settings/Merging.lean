import OperatorConfig.Proofs.Schema.Merge
import OperatorConfig.Proofs.Schema.Overlay
import OperatorConfig.Proofs.Settings.RoundTrip

/-!
# Merging the settings of an installation

The two descriptions of merging, as an operation on settings with its laws and as an overlay of documents,
for every structure in the tree of settings. What is unset in a structure is what its fields are by
default.
-/

namespace OperatorConfig

open Schema (Shape Shaped Leaf Slot AgreeOff encode toJson merge unset)

/-- Merging is associative, with the unset settings as its unit on both sides; settings that are merged
again hide that they have been merged before, so merging them twice is merging them once. In every
structure the unset settings are the default ones. -/
theorem Schema.merge_idempotent_monoid :
    (∀ (α : Type) [Shaped α],
      (∀ a : α, merge a (unset α) = a) ∧
      (∀ a : α, merge (unset α) a = a) ∧
      (∀ a b c : α, merge (merge a b) c = merge a (merge b c)) ∧
      (∀ a b : α, merge (merge a b) a = merge b a) ∧
      (∀ a : α, merge a a = a) ∧
      ∀ a b : α, merge (merge a b) b = merge a b) ∧
    unset String = "" ∧ unset Bool = false ∧ unset Int32 = 0 ∧ unset (List String) = [] ∧
    unset Table = Table.empty ∧ unset Image = {} ∧ unset OAuthProxy = {} ∧ unset Memory = {} ∧
    unset MemoryAndVolume = {} ∧ unset PersistentVolume = {} ∧ unset Volume = {} ∧
    unset ServerFeatures = {} ∧ unset Server = {} ∧ unset MetaService = {} ∧ unset Database = {} ∧
    unset Prometheus = {} ∧ unset Grafana = {} ∧ unset UpgradeJob = {} ∧ unset Components = {} ∧
    unset Jaeger = {} ∧ unset Toggle = {} ∧ unset Todo = {} ∧ unset DataVirtualization = {} ∧
    unset CamelK = {} ∧ unset PublicApi = {} ∧ unset Addons = {} ∧ unset Platform = {} ∧
    unset Settings = {} := by
  refine ⟨fun α _ => ⟨merge_unset, unset_merge, merge_assoc, merge_merge_self, merge_self, fun a b => ?_⟩, ?_⟩
  · rw [merge_assoc, merge_self]
  · and_intros <;> rfl

/-- For every structure in the tree of settings, what is written of merged settings is the overlay of what
is written of both, in the order of the fields and in canonical form. What is found at the path of a leaf
comes from what is found there in both, so settings that set nothing but some leaves leave all others as
they are. -/
theorem Settings.merge_eq_overlay {α : Type} [Shaped α]
    (hoccurs : (Shaped.shape α).Occurs (Shaped.shape Settings)) :
    (∀ base upper : α,
      encode (merge base upper) = (Shaped.shape α).overlay (encode base) (encode upper)) ∧
    (∀ base upper : α,
      toJson (merge base upper) = (Shaped.shape α).overlay (toJson base) (toJson upper)) ∧
    (∀ (base upper : α) (kind : Shape) (leaf : Leaf (Shaped.shape α) kind),
      ∃ held laid, (toJson base).at? leaf.path = some held ∧ (toJson upper).at? leaf.path = some laid ∧
        (toJson (merge base upper)).at? leaf.path = some (kind.overlay held laid)) ∧
    ∀ (paths : List (List String)) (base upper : α), AgreeOff paths upper (unset α) →
      AgreeOff paths (merge base upper) base ∧
      ∀ (kind : Shape) (leaf : Leaf (Shaped.shape α) kind), leaf.path ∉ paths →
        (toJson (merge base upper)).at? leaf.path = (toJson base).at? leaf.path := by
  have hdistinct : (Shaped.shape α).Distinct := hoccurs.distinct Settings.distinct
  refine ⟨Schema.encode_merge hdistinct, Schema.toJson_merge hdistinct, fun base upper kind leaf => ?leaf,
    fun paths base upper hunset => ⟨hunset.merge base, fun kind leaf hpath => ?sibling⟩⟩
  case leaf =>
    refine ⟨_, _, leaf.at?_toJson hdistinct base, leaf.at?_toJson hdistinct upper, ?_⟩
    rw [leaf.at?_toJson hdistinct, leaf.of_merge,
      Schema.overlay_canonical_of_scalar leaf.isRecord_eq_false]
  case sibling =>
    rw [leaf.at?_toJson hdistinct, leaf.at?_toJson hdistinct, hunset.merge base kind leaf hpath]

theorem Settings.merge_eq_overlay_labels :
    let base : PersistentVolume :=
      { memory := "1Gi", volumeLabels := Table.ofList [("app", "fuse"), ("tier", "db")] }
    let upper : PersistentVolume := { volumeLabels := Table.ofList [("tier", "")] }
    (Shaped.shape PersistentVolume).Occurs (Shaped.shape Settings) ∧
    AgreeOff [["volumeLabels"]] upper (unset PersistentVolume) ∧
    toJson (merge base upper) = (Shaped.shape PersistentVolume).overlay (toJson base) (toJson upper) ∧
    AgreeOff [["volumeLabels"]] (merge base upper) base ∧
    merge base upper
      = { memory := "1Gi", volumeLabels := Table.ofList [("app", "fuse"), ("tier", "")] } := by
  intro base upper
  have hdatabase : (Shaped.shape PersistentVolume).Occurs (Shaped.shape Database) :=
    .field (.there (.there (.there (.there (.there .here))))) .self
  have hcomponents : (Shaped.shape PersistentVolume).Occurs (Shaped.shape Components) :=
    .field (.there (.there (.there (.there (.there .here))))) hdatabase
  have hplatform : (Shaped.shape PersistentVolume).Occurs (Shaped.shape Platform) :=
    .field (.there (.there (.there .here))) hcomponents
  have hoccurs : (Shaped.shape PersistentVolume).Occurs (Shaped.shape Settings) :=
    .field (.there (.there (.there (.there (.there (.there (.there (.there (.there (.there (.there (.there
      .here)))))))))))) hplatform
  have hunset : AgreeOff [["volumeLabels"]] upper (unset PersistentVolume) := by
    unfold AgreeOff
    refine Shape.Each.forall _ ?_
    simp only [Shape.Each, Schema.Fields.Each, Shaped.shape, and_true]
    exact ⟨fun _ => rfl, fun _ => rfl, fun _ => rfl, fun _ => rfl, fun _ => rfl,
      fun hpath => absurd List.mem_cons_self hpath⟩
  obtain ⟨-, hoverlay, -, hothers⟩ := Settings.merge_eq_overlay hoccurs
  exact ⟨hoccurs, hunset, hoverlay base upper, (hothers _ base upper hunset).1, by decide⟩

end OperatorConfig
