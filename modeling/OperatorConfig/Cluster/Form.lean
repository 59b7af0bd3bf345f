import OperatorConfig.Schema.Read
import OperatorConfig.Text.Base64

/-!
# Forms of objects of the cluster

The objects of the cluster are read more freely than settings: a record is an object whose unknown
members are ignored, null is as good as nothing, a member that is given again takes the place of the
former, and a needed field that is missing has an empty value. What is read is kept as JSON with the
known fields only.
-/

namespace OperatorConfig.Cluster

open Json (Node Items Members)
open Schema (Complaint Mismatch faultless unwanted foldMembers)

mutual
inductive Form where
  | text
  | constant (value : String)
  | flag
  | int32
  | int64
  /-- An integer of 32 bits or a text. -/
  | intOrText
  /-- Bytes in base64, kept as they are written. -/
  | bytes
  /-- A point in time, kept as it is written. -/
  | time
  | any
  | list (item : Form)
  | map (value : Form)
  | record (kind : String) (fields : Fields)
/-- The fields of a record; a needed one has a value even if none is given. -/
inductive Fields where
  | done
  | field (name : String) (needed : Bool) (form : Form) (rest : Fields)
end

/-- Marks a field that has a value even if none is given. -/
abbrev needed : Bool := true

/-- Marks a field that may be left out. -/
abbrev optional : Bool := false

mutual
/-- The value of a needed field that is missing. -/
def Form.blank : Form → Json
  | .flag => .flag false
  | .int32 => .integer 0
  | .int64 => .integer 0
  | .intOrText => .integer 0
  | .list _ => .array []
  | .map _ => .object []
  | .record _ fields => .object fields.blanks
  | .any => .null
  | .text => .text ""
  | .constant value => .text value
  | .bytes => .text ""
  | .time => .text ""
def Fields.blanks : Fields → List (String × Json)
  | .done => []
  | .field name needed form rest =>
      if needed then (name, form.blank) :: rest.blanks else rest.blanks
end

/-- The members of a record: those that are given, without nulls, and the needed ones. -/
def Fields.complete (given : List (String × Json)) : Fields → List (String × Json)
  | .done => []
  | .field name needed form rest =>
      match Json.lookup name given with
      | some .null => if needed then (name, form.blank) :: rest.complete given else rest.complete given
      | some value => (name, value) :: rest.complete given
      | none => if needed then (name, form.blank) :: rest.complete given else rest.complete given

/-- Where reading stands when an array turns up in place of a record: behind its bracket and the
blanks after it, and behind the closing bracket of an empty one. -/
def behindBracket : Items → Nat
  | .close stop => stop
  | .fault strict _ _ => strict.offset
  | .item value _ => value.start

/-- An integer from `-bound` up to, and without, `bound`. -/
def readInteger (bound : Int) (wanted : String) : Node → Except Complaint Json
  | .number value span => do
      match ← faultless value with
      | .integer n =>
          if -bound ≤ n ∧ n < bound then return .integer n
          else .error (.mismatch (.value (.integer n) wanted) span.stop)
      | .float x => .error (.mismatch (.kind (.float x) wanted) span.stop)
  | node => unwanted wanted node

def readText (wanted : String) (check : String → Option Mismatch) (offset : Nat → Nat) :
    Node → Except Complaint Json
  | .text content span => do
      let content ← faultless content
      match check content with
      | none => return .text content
      | some mismatch => .error (.mismatch mismatch (offset span.stop))
  | node => unwanted wanted node

def readItems (f : Node → Except Complaint Json) : Items → Except Complaint (List Json)
  | .close _ => .ok []
  | .fault strict _ _ => .error (.fault strict)
  | .item value rest => do
      let value ← f value
      return value :: (← readItems f rest)

/-- Takes in the members of an object; `f` gets a key, the value and where the object ends if the
member is its last. -/
def readMembers (f : String → Node → Option Nat → Except Complaint (Option Json))
    (held : List (String × Json)) : Members → Except Complaint (List (String × Json))
  | .close _ => .ok held
  | .fault strict _ => .error (.fault strict)
  | .member key _ value rest => do
      let key ← faultless key
      let stop :=
        match rest with
        | .close stop => some stop
        | _ => none
      match ← f key value stop with
      | some value => readMembers f (held.filter (·.1 ≠ key) ++ [(key, value)]) rest
      | none => readMembers f held rest

/-- What is wrong with a text that should be base64. -/
def base64Mismatch (content : String) : Option Mismatch :=
  match Text.Base64.decode (Text.bytes content) with
  | .ok _ => none
  | .error fault => some (.other fault.message)

mutual
/-- The value that a node holds in the form; `stop` is the end of the enclosing object where the node is
its last member. -/
def Form.read (depth : Nat) (stop : Option Nat) : Form → Node → Except Complaint Json
  | .text, node => readText "a string" (fun _ => none) id node
  | .constant value, node =>
      readText "a string"
        (fun content => if content = value then none else some (.value (.text content) value))
        (fun offset => stop.getD offset) node
  | .flag, node => (Schema.readFlag node).map .flag
  | .int32, node => readInteger 0x80000000 "i32" node
  | .int64, node => readInteger 0x8000000000000000 "i64" node
  | .intOrText, node =>
      match node with
      | .text content _ => (faultless content).map .text
      | .number (.ok (.integer n)) span =>
          if -0x80000000 ≤ n ∧ n < 0x80000000 then .ok (.integer n)
          else .error (.mismatch (.value (.integer n) "a 32-bit integer") span.stop)
      | node => unwanted "IntOrString" node
  | .bytes, node => readText "a base64-encoded string" base64Mismatch id node
  | .time, node => readText "an RFC 3339 formatted date and time string" (fun _ => none) id node
  | .any, node => (faultless (node.value depth)).map Json.canonical
  | .list item, node =>
      match node with
      | .array start items => do
          let depth ← faultless (Json.enter depth start)
          return .array (← readItems (fun node => item.read depth none node) items)
      | node => unwanted "a sequence" node
  | .map value, node =>
      match node with
      | .object start members => do
          let depth ← faultless (Json.enter depth start)
          let entries ← readMembers
            (fun _ node stop => (value.read depth stop node).map some) [] members
          return (Json.object entries).canonical
      | node => unwanted "a map" node
  | .record kind fields, node =>
      match node with
      | .object start members => do
          let depth ← faultless (Json.enter depth start)
          let given ← readMembers (fields.take depth) [] members
          return (Json.object (fields.complete given)).canonical
      | .array start items => do
          let _ ← faultless (Json.enter depth start)
          .error (.mismatch (.kind .sequence kind) (behindBracket items))
      | node => unwanted kind node
/-- The value of a member that names a field; other members are skipped. -/
def Fields.take (depth : Nat) : Fields → String → Node → Option Nat → Except Complaint (Option Json)
  | .done, _, node, _ => do
      faultless node.skip
      return none
  | .field name _ form rest, key, node, stop =>
      if key = name then
        match node with
        | .null _ => .ok (some .null)
        | node => (form.read depth stop node).map some
      else rest.take depth key node stop
end

mutual
/-- A JSON value as the tree of a text, without places. -/
def nodeOf : Json → Node
  | .null => .null ⟨0, 0⟩
  | .flag value => .flag value ⟨0, 0⟩
  | .number value => .number (.ok value) ⟨0, 0⟩
  | .text value => .text (.ok value) ⟨0, 0⟩
  | .array items => .array 0 (itemsOf items)
  | .object members => .object 0 (membersOf members)
def itemsOf : List Json → Items
  | [] => .close 0
  | item :: rest => .item (nodeOf item) (itemsOf rest)
def membersOf : List (String × Json) → Members
  | [] => .close 0
  | (key, value) :: rest => .member (.ok key) 0 (nodeOf value) (membersOf rest)
end

def Form.ofJson (form : Form) (value : Json) : Except Mismatch Json :=
  match form.read Json.deepest none (nodeOf value) with
  | .ok value => .ok value
  | .error (.mismatch mismatch _) => .error mismatch
  | .error (.fault fault) => .error (.other fault.defect.message)

end OperatorConfig.Cluster
