import OperatorConfig.Json.Reading
import OperatorConfig.Schema.Decode

/-!
# Settings from JSON texts

A text is read in its order and up to the first thing that does not fit. A value of the wrong kind is
noticed behind a scalar and before a bracket; a repeated field behind its key. Members that name no
field are skipped. The record within a larger object is different: there all members are read before
the first is looked at, so that complaints about values name the end of the object.
-/

namespace OperatorConfig.Schema

open Json (Node Items Members Document)

def unwanted {α : Type} (wanted : String) : Node → Except Complaint α
  | .null span => .error (.mismatch (.kind .null wanted) span.stop)
  | .flag value span => .error (.mismatch (.kind (.flag value) wanted) span.stop)
  | .number value span => do
      let value ← faultless value
      .error (.mismatch (.kind (.ofJson (.number value)) wanted) span.stop)
  | .text content span => do
      let content ← faultless content
      .error (.mismatch (.kind (.text content) wanted) span.stop)
  | .array start _ => .error (.mismatch (.kind .sequence wanted) start)
  | .object start _ => .error (.mismatch (.kind .map wanted) start)
  | .broken _ strict _ => .error (.fault strict)

def readText : Node → Except Complaint String
  | .text content _ => faultless content
  | node => unwanted "a string" node

def readFlag : Node → Except Complaint Bool
  | .flag value _ => .ok value
  | node => unwanted "a boolean" node

def readInt32 : Node → Except Complaint Int32
  | .number value span => do
      match ← faultless value with
      | .integer n =>
          match int32? n with
          | .ok n => return n
          | .error mismatch => .error (.mismatch mismatch span.stop)
      | .float x => .error (.mismatch (.kind (.float x) "i32") span.stop)
  | node => unwanted "i32" node

def readTexts : Items → Except Complaint (List String)
  | .close _ => .ok []
  | .fault strict _ _ => .error (.fault strict)
  | .item value rest => do
      let text ← readText value
      return text :: (← readTexts rest)

/-- Takes in the members of an object one by one; `f` gets a key, the offset behind it, and the
value. -/
def foldMembers {α : Type} (f : α → String → Nat → Node → Except Complaint α) (held : α) :
    Members → Except Complaint α
  | .close _ => .ok held
  | .fault strict _ => .error (.fault strict)
  | .member key settled value rest => do
      let key ← faultless key
      foldMembers f (← f held key settled value) rest

def membersStop : Members → Nat
  | .close stop => stop
  | .fault strict _ => strict.offset
  | .member _ _ _ rest => membersStop rest

mutual
/-- The value of a shape that stands in a text; `depth` more arrays and objects may nest. -/
def Shape.read : (shape : Shape) → (depth : Nat) → Node → Except Complaint shape.Value
  | .text, _, node => readText node
  | .flag, _, node => readFlag node
  | .integer, _, node => readInt32 node
  | .texts, depth, node =>
      match node with
      | .array start items => do
          let _ ← faultless (Json.enter depth start)
          readTexts items
      | node => unwanted "a sequence" node
  | .table, depth, node =>
      match node with
      | .object start members => do
          let _ ← faultless (Json.enter depth start)
          foldMembers (fun table name _ value => return table.insert name (← readText value))
            Table.empty members
      | node => unwanted "a map" node
  | .record name fields, depth, node =>
      match node with
      | .object start members => do
          let depth ← faultless (Json.enter depth start)
          return fields.complete (← foldMembers (fields.take depth) fields.unread members)
      | .array start items => do
          let depth ← faultless (Json.enter depth start)
          fields.readItems depth items
      | node => unwanted ("struct " ++ name) node
/-- Reads a member into the field that it names, or skips it. -/
def Fields.take (depth : Nat) :
    (fields : Fields) → fields.Partial → String → Nat → Node → Except Complaint fields.Partial
  | .done, values, _, _, value => do
      faultless value.skip
      return values
  | .field key shape rest, (held, values), name, settled, value =>
      if key.names name then
        match held with
        | some _ => .error (.mismatch (.duplicateField key.name) settled)
        | none => do return (some (← shape.read depth value), values)
      else do return (held, ← rest.take depth values name settled value)
def Fields.readItems (depth : Nat) : (fields : Fields) → Items → Except Complaint fields.Values
  | .done, .close _ => .ok ()
  | .done, .fault _ _ surplus => .error (.fault surplus)
  | .done, .item value _ => .error (.fault ⟨.trailingCharacters, value.start + 1⟩)
  | .field _ shape rest, .close _ => .ok (shape.unset, rest.unset)
  | .field _ _ _, .fault strict _ _ => .error (.fault strict)
  | .field _ shape rest, .item value items => do
      let value ← shape.read depth value
      return (value, ← rest.readItems depth items)
end

/-- The value of a record within a larger object called `outer`. -/
def Shape.readWithin (outer : String) (shape : Shape) (depth : Nat) :
    Node → Except Complaint shape.Value
  | .object start members => do
      let depth ← faultless (Json.enter depth start)
      let values ← faultless (members.values depth)
      match shape.decodeWithin outer (.object values) with
      | .ok value => return value
      | .error mismatch => .error (.mismatch mismatch (membersStop members))
  | node => unwanted ("struct " ++ outer) node

def readDocument {α : Type} [Shaped α] (document : Document) : Except Complaint α :=
  (document.whole .fault ((Shaped.shape α).read Json.deepest document.root)).map Shaped.ofValue

def readWithin {α : Type} [Shaped α] (outer : String) (document : Document) : Except Complaint α :=
  (document.whole .fault ((Shaped.shape α).readWithin outer Json.deepest document.root)).map
    Shaped.ofValue

end OperatorConfig.Schema
