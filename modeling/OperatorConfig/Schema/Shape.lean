import OperatorConfig.Table

/-!
# Shapes of settings

Settings are records of texts, flags, integers, lists of texts, tables and further records. A `Shape`
says of which kind a value is and, for a record, which fields it has in which order; everything that
treats all settings alike (reading, writing, merging) goes by the shape. A structure takes part by
naming its shape and laying its fields out along it.
-/

namespace OperatorConfig.Schema

structure Key where
  name : String
  /-- An older spelling that is still read. -/
  older : Option String := none
  /-- What the field is for, if its name does not say it. -/
  about : Option String := none
deriving DecidableEq

instance : Coe String Key := ⟨fun name => { name }⟩

def Key.described (name about : String) : Key := { name, about := some about }

/-- Whether the field is meant by a member of the given name. -/
def Key.names (key : Key) (name : String) : Bool :=
  name = key.name || key.older = some name

mutual
/-- What a value may be. -/
inductive Shape where
  | text
  | flag
  | integer
  | texts
  | table
  | record (name : String) (fields : Fields)
/-- The fields of a record in order. -/
inductive Fields where
  | done
  | field (key : Key) (shape : Shape) (rest : Fields)
end

def Key.spellings (key : Key) : List String := key.name :: key.older.toList

/-- Every name that means one of the fields. -/
def Fields.spellings : Fields → List String
  | .done => []
  | .field key _ rest => key.spellings ++ rest.spellings

mutual
/-- The values of a shape. -/
def Shape.Value : Shape → Type
  | .text => String
  | .flag => Bool
  | .integer => Int32
  | .texts => List String
  | .table => Table
  | .record _ fields => fields.Values
def Fields.Values : Fields → Type
  | .done => Unit
  | .field _ shape rest => shape.Value × rest.Values
end

mutual
/-- The value that counts as unset. -/
def Shape.unset : (shape : Shape) → shape.Value
  | .text => ""
  | .flag => false
  | .integer => (0 : Int32)
  | .texts => ([] : List String)
  | .table => Table.empty
  | .record _ fields => fields.unset
def Fields.unset : (fields : Fields) → fields.Values
  | .done => ()
  | .field _ shape rest => (shape.unset, rest.unset)
end

def Fields.count : Fields → Nat
  | .done => 0
  | .field _ _ rest => rest.count + 1

/-- What a decoder says that it wants. -/
def Shape.wanted : Shape → String
  | .text => "a string"
  | .flag => "a boolean"
  | .integer => "i32"
  | .texts => "a sequence"
  | .table => "a map"
  | .record name _ => "struct " ++ name

/-- A type whose values are the values of a shape. -/
class Shaped (α : Type) where
  shape : Shape
  toValue : α → shape.Value
  ofValue : shape.Value → α
  ofValue_toValue : ∀ a, ofValue (toValue a) = a
  toValue_ofValue : ∀ v, toValue (ofValue v) = v

attribute [simp] Shaped.ofValue_toValue Shaped.toValue_ofValue

instance : Shaped String := ⟨.text, id, id, fun _ => rfl, fun _ => rfl⟩
instance : Shaped Bool := ⟨.flag, id, id, fun _ => rfl, fun _ => rfl⟩
instance : Shaped Int32 := ⟨.integer, id, id, fun _ => rfl, fun _ => rfl⟩
instance : Shaped (List String) := ⟨.texts, id, id, fun _ => rfl, fun _ => rfl⟩
instance : Shaped Table := ⟨.table, id, id, fun _ => rfl, fun _ => rfl⟩

end OperatorConfig.Schema
