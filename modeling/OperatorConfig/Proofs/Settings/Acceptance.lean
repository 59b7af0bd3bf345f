import Mathlib
import OperatorConfig.Proofs.Json.Tree
import OperatorConfig.Proofs.Schema.Canonical
import OperatorConfig.Proofs.Schema.Streaming
import OperatorConfig.Settings.Overrides

/-!
# Which overrides are accepted

Overrides are accepted exactly where the value is one for the shape of the platform, and then each of
them is what the value gives for it. Read from a text they are accepted only where the value of the text
is, and come to the same; a text may be refused for a repeated key alone.
-/

namespace OperatorConfig

open Schema (Shape Shaped Leaf Place)

theorem Platform.separate : (Shaped.shape Platform).Separate := by decide

namespace Schema

variable {α : Type} [Shaped α]

theorem decode_eq_ok_iff_decode {value : Json} {a : α} :
    decode value = .ok a ↔ (Shaped.shape α).decode .counted value = .ok (Shaped.toValue a) := by
  rw [decode, map_eq_ok_iff]
  constructor
  · rintro ⟨held, hread, rfl⟩
    rw [Shaped.toValue_ofValue]
    exact hread
  · intro hread
    exact ⟨_, hread, Shaped.ofValue_toValue a⟩

/-- Settings are read of a value that is one for their shape, and are what it gives for each leaf. -/
theorem decode_eq_ok_iff (hseparate : (Shaped.shape α).Separate) {value : Json} {a : α} :
    decode value = .ok a ↔
      (Shaped.shape α).WellTyped value ∧
        ∀ kind (leaf : Leaf (Shaped.shape α) kind), leaf.Gives value (leaf.of a) := by
  rw [decode_eq_ok_iff_decode, Shape.decode_eq_ok_iff hseparate]
  rfl

theorem exists_decode_eq_ok_iff (hseparate : (Shaped.shape α).Separate) {value : Json} :
    (∃ a : α, decode value = .ok a) ↔ (Shaped.shape α).WellTyped value := by
  rw [Shape.wellTyped_iff .counted _ hseparate]
  constructor
  · rintro ⟨a, hread⟩
    exact ⟨_, decode_eq_ok_iff_decode.mp hread⟩
  · rintro ⟨x, hread⟩
    refine ⟨Shaped.ofValue x, decode_eq_ok_iff_decode.mpr ?_⟩
    rw [Shaped.toValue_ofValue]
    exact hread

end Schema

namespace Platform

/-! ### From values -/

theorem ofJson_eq_ok_iff {value : Json} {overrides : Platform} :
    ofJson value = .ok overrides ↔ Schema.decode value = .ok overrides :=
  mapError_eq_ok_iff

theorem exists_ofJson_eq_error {value : Json} (h : ∀ overrides, ofJson value ≠ .ok overrides) :
    ∃ mismatch : Schema.Mismatch, ofJson value = .error (.overrides mismatch.message) := by
  rw [ofJson]
  cases hread : (Schema.decode value : Except Schema.Mismatch Platform) with
  | error mismatch => exact ⟨mismatch, rfl⟩
  | ok overrides => exact absurd (ofJson_eq_ok_iff.mpr hread) (h overrides)

/-- Overrides are accepted exactly from well-typed values, and each leaf of them is the one that the
value gives, or unset. All other values are refused because of their form; null is refused wherever a
field has a shape. -/
theorem ofJson_accepts_wellTyped (value : Json) :
    ((∃ overrides, ofJson value = .ok overrides) ↔ (Shaped.shape Platform).WellTyped value) ∧
    (∀ overrides, ofJson value = .ok overrides ↔
      (Shaped.shape Platform).WellTyped value ∧
        ∀ kind (leaf : Leaf (Shaped.shape Platform) kind), leaf.Gives value (leaf.of overrides)) ∧
    (¬ (Shaped.shape Platform).WellTyped value →
      ∃ mismatch : Schema.Mismatch, ofJson value = .error (.overrides mismatch.message)) ∧
    (∀ (inner : Shape) (place : Place (Shaped.shape Platform) inner), place.given value = some .null →
      ∃ mismatch : Schema.Mismatch, ofJson value = .error (.overrides mismatch.message)) := by
  have haccepted : (∃ overrides, ofJson value = .ok overrides) ↔
      (Shaped.shape Platform).WellTyped value := by
    simp only [ofJson_eq_ok_iff]
    exact Schema.exists_decode_eq_ok_iff separate
  have hrefused : ¬ (Shaped.shape Platform).WellTyped value →
      ∃ mismatch : Schema.Mismatch, ofJson value = .error (.overrides mismatch.message) := by
    intro htyped
    apply exists_ofJson_eq_error
    intro overrides hread
    exact htyped (haccepted.mp ⟨overrides, hread⟩)
  refine ⟨haccepted, fun overrides => ?_, hrefused, fun inner place hgiven => ?_⟩
  · rw [ofJson_eq_ok_iff]
    exact Schema.decode_eq_ok_iff separate
  · apply hrefused
    intro htyped
    exact Schema.not_wellTyped_null inner (place.wellTyped separate htyped hgiven)

end Platform

/-! ### From texts -/

namespace Schema

/-- Settings are read of a text where they are read of the value written in it. -/
theorem readDocument_eq_ok_iff {α : Type} [Shaped α] {text : List UInt8} {value : Json}
    (hwritten : Json.written text = .ok value) {a : α} :
    readDocument (Json.Document.ofBytes text) = .ok a ↔ decode value = .ok a := by
  obtain ⟨hvalue, htrailing⟩ := Json.written_eq_ok_iff.mp hwritten
  have hread := Shape.toOption_read .counted (Shaped.shape α) hvalue
  rw [← toOption_eq_some_iff, ← toOption_eq_some_iff]
  have hdocument : (readDocument (Json.Document.ofBytes text) : Except Complaint α).toOption
      = ((Shaped.shape α).read Json.deepest (Json.Document.ofBytes text).root).toOption.map
          Shaped.ofValue := by
    unfold readDocument Json.Document.whole
    rw [htrailing]
    cases (Shaped.shape α).read Json.deepest (Json.Document.ofBytes text).root <;> rfl
  rw [hdocument, hread, decode]
  cases (Shaped.shape α).decode .counted value <;> rfl

end Schema

namespace Platform

theorem ofBytes_eq_ok_iff {text : List UInt8} {value : Json} (hwritten : Json.written text = .ok value)
    {overrides : Platform} :
    ofBytes text = .ok overrides ↔ Schema.decode value = .ok overrides := by
  rw [← Schema.readDocument_eq_ok_iff hwritten]
  exact mapError_eq_ok_iff

/-- Overrides that are read of a text are read of its value. Where no key is repeated in the text, both
are read or neither is. -/
theorem ofBytes_agrees_ofJson (text : List UInt8) (value : Json) (hvalue : Json.ofBytes text = .ok value) :
    ∃ written, Json.written text = .ok written ∧ written.canonical = value ∧
      (∀ overrides, ofBytes text = .ok overrides → ofJson value = .ok overrides) ∧
      (written.KeysOnce → ∀ overrides, ofBytes text = .ok overrides ↔ ofJson value = .ok overrides) := by
  obtain ⟨written, hwritten, hcanonical⟩ := Json.ofBytes_eq_ok_iff.mp hvalue
  refine ⟨written, hwritten, hcanonical, fun overrides hread => ?_, fun honce overrides => ?_⟩
  · rw [ofBytes_eq_ok_iff hwritten, Schema.decode_eq_ok_iff_decode] at hread
    rw [ofJson_eq_ok_iff, Schema.decode_eq_ok_iff_decode, ← hcanonical]
    exact Shape.decode_canonical _ separate hread
  · rw [ofBytes_eq_ok_iff hwritten, ofJson_eq_ok_iff, Schema.decode_eq_ok_iff_decode,
      Schema.decode_eq_ok_iff_decode, ← hcanonical]
    exact (Shape.decode_canonical_iff separate honce).symm

/-- A key that means no field may be repeated in a text; what it held first is lost. -/
theorem ofBytes_agrees_ofJson_repeated :
    Json.ofBytes (Text.bytes "\x7b\"x\":[null],\"sha\":true,\"x\":1\x7d")
      = .ok (.object [("sha", .flag true), ("x", .integer 1)]) ∧
    ∃ written, Json.written (Text.bytes "\x7b\"x\":[null],\"sha\":true,\"x\":1\x7d") = .ok written ∧
      written.canonical = .object [("sha", .flag true), ("x", .integer 1)] ∧
      (∀ overrides, ofBytes (Text.bytes "\x7b\"x\":[null],\"sha\":true,\"x\":1\x7d") = .ok overrides →
        ofJson (.object [("sha", .flag true), ("x", .integer 1)]) = .ok overrides) ∧
      (written.KeysOnce → ∀ overrides,
        ofBytes (Text.bytes "\x7b\"x\":[null],\"sha\":true,\"x\":1\x7d") = .ok overrides ↔
          ofJson (.object [("sha", .flag true), ("x", .integer 1)]) = .ok overrides) := by
  have hvalue : Json.ofBytes (Text.bytes "\x7b\"x\":[null],\"sha\":true,\"x\":1\x7d")
      = .ok (.object [("sha", .flag true), ("x", .integer 1)]) := by cbv
  exact ⟨hvalue, ofBytes_agrees_ofJson _ _ hvalue⟩

end Platform

end OperatorConfig
