import OperatorConfig.Schema.Shape

/-!
# Merging settings

Settings laid over others replace what they set: a text that is not empty, a flag that is on, an
integer other than zero, a list with items. The entries of a table join those below, over entries of
the same name. All else keeps its value.
-/

namespace OperatorConfig.Schema

mutual
/-- `upper` over `base`. -/
def Shape.merge : (shape : Shape) → (base upper : shape.Value) → shape.Value
  | .text, (base : String), (upper : String) => if upper = "" then base else upper
  | .flag, (base : Bool), (upper : Bool) => base || upper
  | .integer, (base : Int32), (upper : Int32) => if upper = 0 then base else upper
  | .texts, (base : List String), (upper : List String) => if upper = [] then base else upper
  | .table, (base : Table), (upper : Table) => base.overlay upper
  | .record _ fields, base, upper => fields.merge base upper
def Fields.merge : (fields : Fields) → (base upper : fields.Values) → fields.Values
  | .done, _, _ => ()
  | .field _ shape rest, (base, bases), (upper, uppers) =>
      (shape.merge base upper, rest.merge bases uppers)
end

/-- The settings `upper` over the settings `base`. -/
def merge {α : Type} [Shaped α] (base upper : α) : α :=
  Shaped.ofValue ((Shaped.shape α).merge (Shaped.toValue base) (Shaped.toValue upper))

end OperatorConfig.Schema
