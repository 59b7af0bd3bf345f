import OperatorConfig.Json.Basic
import OperatorConfig.Schema.Shape

/-!
# Settings as JSON

Every field of a record is written, in the order of the record. The canonical form of a value sorts
the members.
-/

namespace OperatorConfig.Schema

def encodeTable (table : Table) : Json :=
  .object (table.entries.map fun entry => (entry.1, .text entry.2))

mutual
/-- The value written as JSON. -/
def Shape.encode : (shape : Shape) → shape.Value → Json
  | .text, (value : String) => .text value
  | .flag, (value : Bool) => .flag value
  | .integer, (value : Int32) => .integer value.toInt
  | .texts, (value : List String) => .texts value
  | .table, (value : Table) => encodeTable value
  | .record _ fields, value => .object (fields.encode value)
def Fields.encode : (fields : Fields) → fields.Values → List (String × Json)
  | .done, _ => []
  | .field key shape rest, (value, values) => (key.name, shape.encode value) :: rest.encode values
end

/-- Settings as JSON, in the order of their fields. -/
def encode {α : Type} [Shaped α] (value : α) : Json :=
  (Shaped.shape α).encode (Shaped.toValue value)

/-- Settings as a JSON value in canonical form. -/
def toJson {α : Type} [Shaped α] (value : α) : Json :=
  (encode value).canonical

end OperatorConfig.Schema
