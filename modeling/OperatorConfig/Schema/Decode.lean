import OperatorConfig.Schema.Mismatch
import OperatorConfig.Schema.Shape

/-!
# Settings from JSON values

A record is an object, whose unknown members are ignored and whose missing fields are unset, or an
array with the values of its first fields in order. No field may be given twice. Null is a value like
any other and fits no shape.
-/

namespace OperatorConfig.Schema

/-- How a decoder complains about an array with more items than fields. -/
inductive Surplus where
  | counted
  | compared
deriving DecidableEq

def Surplus.mismatch (surplus : Surplus) (count fields : Nat) : Mismatch :=
  match surplus with
  | .counted => .surplus count
  | .compared =>
      .length count
        (if fields = 1 then "1 element in sequence" else s!"{fields} elements in sequence")

mutual
/-- The values of the fields that have been read so far. -/
def Fields.Partial : Fields → Type
  | .done => Unit
  | .field _ shape rest => Option shape.Value × rest.Partial
end

def Fields.unread : (fields : Fields) → fields.Partial
  | .done => ()
  | .field _ _ rest => (none, rest.unread)

/-- The values read, with all other fields unset. -/
def Fields.complete : (fields : Fields) → fields.Partial → fields.Values
  | .done, _ => ()
  | .field _ shape rest, (value, values) => (value.getD shape.unset, rest.complete values)

def decodeText : Json → Except Mismatch String
  | .text value => .ok value
  | value => .error (.kind (.ofJson value) "a string")

/-- The integer, if it has 32 bits. -/
def int32? (value : Int) : Except Mismatch Int32 :=
  if -0x80000000 ≤ value ∧ value < 0x80000000 then .ok (Int32.ofInt value)
  else .error (.value (.integer value) "i32")

def decodeTexts : List Json → Except Mismatch (List String)
  | [] => .ok []
  | value :: rest => do
      let text ← decodeText value
      return text :: (← decodeTexts rest)

/-- The entries of a table, each over those before it. -/
def decodeEntries (table : Table) : List (String × Json) → Except Mismatch Table
  | [] => .ok table
  | (name, value) :: rest => do
      let text ← decodeText value
      decodeEntries (table.insert name text) rest

mutual
/-- The value of a shape that JSON holds. -/
def Shape.decode (surplus : Surplus) : (shape : Shape) → Json → Except Mismatch shape.Value
  | .text, value => decodeText value
  | .flag, value =>
      match value with
      | .flag on => .ok on
      | value => .error (.kind (.ofJson value) "a boolean")
  | .integer, value =>
      match value with
      | .number (.integer n) => int32? n
      | value => .error (.kind (.ofJson value) "i32")
  | .texts, value =>
      match value with
      | .array items => decodeTexts items
      | value => .error (.kind (.ofJson value) "a sequence")
  | .table, value =>
      match value with
      | .object members => decodeEntries Table.empty members
      | value => .error (.kind (.ofJson value) "a map")
  | .record name fields, value =>
      match value with
      | .object members => do
          let values ← members.foldlM
            (fun values member => fields.put surplus values member.1 member.2) fields.unread
          return fields.complete values
      | .array items => fields.decodeItems surplus items.length fields.count items
      | value => .error (.kind (.ofJson value) ("struct " ++ name))
/-- Reads a member into the field that it names. -/
def Fields.put (surplus : Surplus) :
    (fields : Fields) → fields.Partial → String → Json → Except Mismatch fields.Partial
  | .done, values, _, _ => .ok values
  | .field key shape rest, (held, values), name, value =>
      if key.names name then
        match held with
        | some _ => .error (.duplicateField key.name)
        | none => do return (some (← shape.decode surplus value), values)
      else do return (held, ← rest.put surplus values name value)
/-- Reads items into the fields in order; the array has `count` items and the record `size` fields. -/
def Fields.decodeItems (surplus : Surplus) (count size : Nat) :
    (fields : Fields) → List Json → Except Mismatch fields.Values
  | .done, [] => .ok ()
  | .done, _ :: _ => .error (surplus.mismatch count size)
  | .field _ shape rest, [] => .ok (shape.unset, rest.unset)
  | .field _ shape rest, item :: items => do
      let value ← shape.decode surplus item
      return (value, ← rest.decodeItems surplus count size items)
end

/-- Reads buffered members once more. Only those with a known name are handed to the fields; the others
stay in the buffer. -/
def Fields.replay (fields : Fields) (known : List String) (values : fields.Partial) :
    List (String × Json) → Except Mismatch fields.Partial
  | [] => .ok values
  | (name, value) :: buffered =>
      if known.contains name then do
        let values ← fields.put .compared values name value
        fields.replay known values buffered
      else fields.replay known values buffered

/-- The value of a record whose members stand among those of a larger object called `outer`: nothing
but an object will do, and its members are buffered before the record gets its own. -/
def Shape.decodeWithin (outer : String) : (shape : Shape) → Json → Except Mismatch shape.Value
  | .record _ fields, .object buffered => do
      let values ← fields.replay fields.spellings fields.unread buffered
      return fields.complete values
  | _, value => .error (.kind (.ofJson value) ("struct " ++ outer))

def decode {α : Type} [Shaped α] (value : Json) : Except Mismatch α :=
  ((Shaped.shape α).decode .counted value).map Shaped.ofValue

def decodeWithin {α : Type} [Shaped α] (outer : String) (value : Json) : Except Mismatch α :=
  ((Shaped.shape α).decodeWithin outer value).map Shaped.ofValue

end OperatorConfig.Schema
