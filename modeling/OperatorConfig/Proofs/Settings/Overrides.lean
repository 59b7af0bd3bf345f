import OperatorConfig.Proofs.Schema.Leaf
import OperatorConfig.Proofs.Schema.RoundTrip
import OperatorConfig.Settings.Overrides

/-!
# Overriding is merging

A specification takes its way through JSON before it overrides anything. Nothing is lost on the way, so
overriding comes to merging: the specification counts as settings in which all but the platform is unset.
-/

namespace OperatorConfig

open Schema (Shaped)

theorem Platform.distinct : (Shaped.shape Platform).Distinct := by decide

/-- The overrides survive their JSON form. -/
theorem Platform.ofJson_toJson (overrides : Platform) :
    Platform.ofJson (Schema.toJson overrides) = .ok overrides := by
  rw [ofJson, Schema.decode_toJson distinct]
  rfl

/-- The settings in which all is unset but what a specification overrides. -/
def Specification.settings (specification : Specification) : Settings where
  platform := specification.overrides

namespace Settings

/-- Only the platform is merged where all else is unset. -/
theorem merge_settings (s : Settings) (specification : Specification) :
    Schema.merge s specification.settings
      = { s with platform := Schema.merge s.platform specification.overrides } := by
  unfold Schema.merge Specification.settings
  simp [Shaped.shape, Shaped.toValue, Shaped.ofValue, Schema.Shape.merge, Schema.Fields.merge]

theorem applySpecification_eq (specification : Specification) (s : Settings) :
    s.applySpecification specification = .ok (Schema.merge s specification.settings) := by
  rw [applySpecification, Specification.toJson, Platform.ofJson_toJson, merge_settings]
  rfl

end Settings

end OperatorConfig
