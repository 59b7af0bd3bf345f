import OperatorConfig.Proofs.Json.Printed
import OperatorConfig.Proofs.Schema.Canonical
import OperatorConfig.Schema.Encode

/-!
# Written settings

What is written of settings can be read from a text: its integers have 32 bits, it nests no deeper than
the shape, and it gives no key twice. So settings are also read back from their JSON form as it is
written, before its members are sorted.
-/

namespace OperatorConfig.Schema

mutual
/-- How deep arrays and objects nest in what is written of a shape. -/
def Shape.nesting : Shape → Nat
  | .text => 0
  | .flag => 0
  | .integer => 0
  | .texts => 1
  | .table => 1
  | .record _ fields => fields.nesting + 1
def Fields.nesting : Fields → Nat
  | .done => 0
  | .field _ shape rest => max shape.nesting rest.nesting
end

theorem legibleItems_texts (texts : List String) (depth : Nat) :
    Json.LegibleItems (texts.map .text) depth := by
  induction texts with
  | nil => trivial
  | cons text texts ih => exact ⟨trivial, ih⟩

theorem legibleMembers_texts (entries : List (String × String)) (depth : Nat) :
    Json.LegibleMembers (entries.map fun entry => (entry.1, .text entry.2)) depth := by
  rw [Json.legibleMembers_iff]
  intro member hmem
  obtain ⟨entry, -, rfl⟩ := List.mem_map.mp hmem
  trivial

mutual
theorem Shape.legible_encode : (shape : Shape) → (x : shape.Value) → {depth : Nat} →
    shape.nesting ≤ depth → (shape.encode x).Legible depth
  | .text, _, _, _ => trivial
  | .flag, _, _, _ => trivial
  | .integer, x, _, _ => by
      have hlow := Int32.le_toInt x
      have hhigh := Int32.toInt_lt x
      exact ⟨by omega, by omega⟩
  | .texts, x, depth + 1, _ => legibleItems_texts x depth
  | .table, x, depth + 1, _ => legibleMembers_texts x.entries depth
  | .record _ fields, x, _ + 1, hdepth => fields.legible_encode x (Nat.le_of_succ_le_succ hdepth)
theorem Fields.legible_encode : (fields : Fields) → (x : fields.Values) → {depth : Nat} →
    fields.nesting ≤ depth → Json.LegibleMembers (fields.encode x) depth
  | .done, _, _, _ => trivial
  | .field _ shape rest, (x, others), _, hdepth =>
      ⟨shape.legible_encode x (Nat.le_trans (Nat.le_max_left _ _) hdepth),
        rest.legible_encode others (Nat.le_trans (Nat.le_max_right _ _) hdepth)⟩
end

theorem keysOnceItems_texts (texts : List String) : Json.KeysOnceItems (texts.map .text) := by
  induction texts with
  | nil => trivial
  | cons text texts ih => exact ⟨trivial, ih⟩

theorem keysOnce_encodeTable (table : Table) : (encodeTable table).KeysOnce := by
  have hordered : Json.Ordered (table.entries.map fun entry => (entry.1, .text entry.2)) :=
    List.pairwise_map.mpr table.ordered
  refine ⟨hordered.nodup, ?_⟩
  induction table.entries with
  | nil => trivial
  | cons entry entries ih => exact ⟨trivial, ih⟩

mutual
theorem Shape.keysOnce_encode : (shape : Shape) → shape.Distinct → (x : shape.Value) →
    (shape.encode x).KeysOnce
  | .text, _, _ => trivial
  | .flag, _, _ => trivial
  | .integer, _, _ => trivial
  | .texts, _, x => keysOnceItems_texts x
  | .table, _, x => keysOnce_encodeTable x
  | .record _ fields, hdistinct, x =>
      ⟨fields.nodup_encode hdistinct x, fields.keysOnce_encode hdistinct x⟩
theorem Fields.keysOnce_encode : (fields : Fields) → fields.Distinct → (x : fields.Values) →
    Json.KeysOnceMembers (fields.encode x)
  | .done, _, _ => trivial
  | .field _ shape rest, hdistinct, (x, others) =>
      ⟨shape.keysOnce_encode hdistinct.2.1 x, rest.keysOnce_encode hdistinct.2.2 others⟩
end

section Settings

variable {α : Type} [Shaped α] (a : α)

theorem legible_encode {depth : Nat} (hdepth : (Shaped.shape α).nesting ≤ depth) :
    (encode a).Legible depth :=
  (Shaped.shape α).legible_encode _ hdepth

/-- Settings are read back from their JSON form before its members are sorted. -/
theorem decode_encode (hdistinct : (Shaped.shape α).Distinct) (hseparate : (Shaped.shape α).Separate) :
    decode (encode a) = .ok a := by
  have hcanonical := (Shaped.shape α).decode_encode .counted hdistinct (Shaped.toValue a)
  have honce := (Shaped.shape α).keysOnce_encode hdistinct (Shaped.toValue a)
  have hread := Shape.decode_of_canonical _ hseparate honce hcanonical
  rw [encode, decode, hread]
  exact congrArg Except.ok (Shaped.ofValue_toValue a)

end Settings

end OperatorConfig.Schema
