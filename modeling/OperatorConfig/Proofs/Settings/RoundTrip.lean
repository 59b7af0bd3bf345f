import OperatorConfig.Proofs.Schema.Members
import OperatorConfig.Proofs.Settings.Overrides
import OperatorConfig.Settings.Loading

/-!
# Settings are what their JSON form says

Every structure in the tree of settings is read back from what is written of it, because no two fields
that are read together are written under one name. So the way of a specification through JSON leaves no
trace, and what has once been read, in whichever form, is settled: writing it and reading it again
changes nothing.
-/

namespace OperatorConfig

open Schema (Shape Shaped)

namespace Schema

/-! ### Shapes within a shape -/

/-- A shape occurs within another: as it is, or within the shape of a field. -/
inductive Shape.Occurs : Shape → Shape → Prop
  | self {shape : Shape} : Occurs shape shape
  | field {inner shape : Shape} {name : String} {fields : Fields} (slot : Slot fields shape)
      (h : Occurs inner shape) : Occurs inner (.record name fields)

theorem Shape.Occurs.distinct {inner outer : Shape} (h : inner.Occurs outer)
    (houter : outer.Distinct) : inner.Distinct := by
  induction h with
  | self => exact houter
  | field slot h ih => exact ih (slot.distinct houter)

/-! ### Records among other members -/

/-- A record is also read back from the members of a larger object. -/
theorem Shape.decodeWithin_encode (outer : String) : (shape : Shape) → shape.isRecord = true →
    shape.Distinct → (value : shape.Value) →
    shape.decodeWithin outer (shape.encode value).canonical = .ok value
  | .record name fields, hrecord, hdistinct, values => by
      have hcanonical := canonical_encode_record name fields values
      have hread := Shape.decode_encode .compared (.record name fields) hdistinct values
      refine (congrArg _ hcanonical).trans ((Shape.decodeWithin_object hrecord).trans ?_)
      exact (congrArg _ hcanonical).symm.trans hread

theorem decodeWithin_toJson {α : Type} [Shaped α] (outer : String)
    (hrecord : (Shaped.shape α).isRecord = true) (hdistinct : (Shaped.shape α).Distinct) (a : α) :
    decodeWithin outer (toJson a) = .ok a := by
  rw [decodeWithin, toJson, encode, Shape.decodeWithin_encode outer _ hrecord hdistinct]
  exact congrArg Except.ok (Shaped.ofValue_toValue a)

end Schema

theorem Settings.distinct : (Shaped.shape Settings).Distinct := by decide

namespace Settings

theorem ofValue_toJson (s : Settings) : ofValue (Schema.toJson s) = .ok s := by
  rw [ofValue, Schema.decode_toJson distinct]
  rfl

end Settings

namespace Specification

theorem decode_toJson (specification : Specification) :
    decode specification.toJson = .ok specification := by
  rw [decode, toJson, Schema.decodeWithin_toJson kind rfl Platform.distinct]
  rfl

end Specification

/-- Overrides are read back from the value of their specification, both as overrides and as a
specification; overriding always succeeds and merges the overrides into the platform, and nothing else
changes. Settings are read back from their value, and so is every part of them. Whatever has been read
from any value is read again from the value that is written of it. -/
theorem Settings.survive_json :
    (∀ overrides : Platform,
      Platform.ofJson (Specification.toJson ⟨overrides⟩) = .ok overrides ∧
      Specification.decode (Specification.toJson ⟨overrides⟩) = .ok ⟨overrides⟩) ∧
    (∀ (specification : Specification) (s : Settings),
      s.applySpecification specification
        = .ok { s with platform := Schema.merge s.platform specification.overrides }) ∧
    (∀ s : Settings, Settings.ofValue (Schema.toJson s) = .ok s) ∧
    (∀ shape : Shape, shape.Occurs (Shaped.shape Settings) →
      ∀ (surplus : Schema.Surplus) (value : shape.Value),
        shape.decode surplus (shape.encode value).canonical = .ok value) ∧
    (∀ (value : Json) (s : Settings), Settings.ofValue value = .ok s →
      Settings.ofValue (Schema.toJson s) = Settings.ofValue value) ∧
    (∀ (value : Json) (overrides : Platform), Platform.ofJson value = .ok overrides →
      Platform.ofJson (Schema.toJson overrides) = Platform.ofJson value) ∧
    (∀ (value : Json) (specification : Specification),
      Specification.decode value = .ok specification →
        Specification.decode specification.toJson = Specification.decode value) := by
  refine ⟨fun overrides => ⟨Platform.ofJson_toJson overrides, Specification.decode_toJson _⟩,
    fun specification s => ?_, Settings.ofValue_toJson, fun shape hoccurs surplus value => ?_,
    fun value s hread => ?_, fun value overrides hread => ?_, fun value specification hread => ?_⟩
  · rw [applySpecification_eq, merge_settings]
  · exact shape.decode_encode surplus (hoccurs.distinct Settings.distinct) value
  · rw [hread, Settings.ofValue_toJson]
  · rw [hread, Platform.ofJson_toJson]
  · rw [hread, Specification.decode_toJson]

end OperatorConfig
