import OperatorConfig.Decimal.Shortest
import OperatorConfig.Json.Fault
import OperatorConfig.Json.Basic
import OperatorConfig.Text.Quoted

/-!
# Values that do not fit

What a decoder says when a document holds a value other than the one it wants. A complaint about a
text also says where.
-/

namespace OperatorConfig.Schema

open Decimal (Double)

inductive Found where
  | null
  | flag (value : Bool)
  | integer (value : Int)
  /-- An integer beyond 64 bits. -/
  | wideInteger (value : Int)
  | float (value : Double)
  | text (value : String)
  | sequence
  | map
  | tagged
deriving DecidableEq

/-- What a value is to a decoder that did not want it. -/
def Found.ofJson : Json → Found
  | .null => .null
  | .flag value => .flag value
  | .number (.integer value) => .integer value
  | .number (.float value) => .float value
  | .text value => .text value
  | .array _ => .sequence
  | .object _ => .map

def Found.message : Found → String
  | .null => "null"
  | .flag value => s!"boolean `{value}`"
  | .integer value => s!"integer `{value}`"
  | .wideInteger value =>
      s!"integer `{value}` as " ++ (if value < 0 then "i128" else "u128")
  | .float value => s!"floating point `{value.text}`"
  | .text value => "string " ++ Text.quoted value
  | .sequence => "sequence"
  | .map => "map"
  | .tagged => "enum"

inductive Mismatch where
  | kind (found : Found) (wanted : String)
  | value (found : Found) (wanted : String)
  /-- An array with more items than a record has fields. -/
  | surplus (count : Nat)
  /-- An array of `count` items where `wanted` describes how many there may be. -/
  | length (count : Nat) (wanted : String)
  | duplicateField (name : String)
  | missingField (name : String)
  | unknownVariant (name : String) (known : List String)
  | other (text : String)
deriving DecidableEq

def oneOf : List String → String
  | [] => "there are no variants"
  | [a] => s!"expected `{a}`"
  | [a, b] => s!"expected `{a}` or `{b}`"
  | many => "expected one of " ++ ", ".intercalate (many.map fun a => s!"`{a}`")

def Mismatch.message : Mismatch → String
  | .kind found wanted => s!"invalid type: {found.message}, expected {wanted}"
  | .value found wanted => s!"invalid value: {found.message}, expected {wanted}"
  | .surplus count => s!"invalid length {count}, expected fewer elements in array"
  | .length count wanted => s!"invalid length {count}, expected {wanted}"
  | .duplicateField name => s!"duplicate field `{name}`"
  | .missingField name => s!"missing field `{name}`"
  | .unknownVariant name known => s!"unknown variant `{name}`, {oneOf known}"
  | .other text => text

/-- What a decoder of a text complains about, and how many bytes it had read. -/
inductive Complaint where
  | fault (fault : Json.Fault)
  | mismatch (mismatch : Mismatch) (offset : Nat)
deriving DecidableEq

def Complaint.reason : Complaint → String
  | .fault cause => cause.defect.message
  | .mismatch cause _ => cause.message

def Complaint.place (document : List UInt8) : Complaint → Json.Position
  | .fault cause => Json.Position.after document cause.offset
  | .mismatch _ offset => Json.Position.after document offset

def Complaint.message (document : List UInt8) (complaint : Complaint) : String :=
  complaint.reason ++ (complaint.place document).suffix

def faultless {α : Type} : Except Json.Fault α → Except Complaint α
  | .ok value => .ok value
  | .error fault => .error (.fault fault)

end OperatorConfig.Schema
