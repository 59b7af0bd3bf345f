import OperatorConfig.Decimal.Shortest
import OperatorConfig.Json.Basic

/-!
# YAML values

What a YAML document stands for: more than a JSON value, since numbers may be infinite, keys may be any
values, and a tag of one's own may stand before a value. `toJson` gives the JSON value of those values
that have one: keys that are numbers or flags become their texts, and a value with a tag becomes an
object of one member.
-/

namespace OperatorConfig.Yaml

open Decimal (Double)

inductive Real where
  | finite (value : Double)
  | infinite (negative : Bool)
  | undefined
deriving DecidableEq, Inhabited

/-- The texts of numbers in messages give large exponents no sign. -/
def messageSpelling : Decimal.Spelling := { Decimal.documentSpelling with signed := false }

def Real.message : Real → String
  | .finite value => value.text messageSpelling
  | .infinite false => ".inf"
  | .infinite true => "-.inf"
  | .undefined => ".nan"

/-- Whether two numbers are one key: zeros are alike whatever their sign. -/
def Real.same : Real → Real → Bool
  | .finite a, .finite b => a = b || a.isZero && b.isZero
  | .infinite a, .infinite b => a = b
  | .undefined, .undefined => true
  | _, _ => false

inductive Value where
  | null
  | flag (value : Bool)
  | integer (value : Int)
  | real (value : Real)
  | text (value : String)
  | sequence (items : List Value)
  | mapping (members : List (Value × Value))
  | tagged (tag : String) (value : Value)
deriving Inhabited

namespace Value

mutual
/-- Whether two values are one key; the order of members makes no difference. -/
def same : Value → Value → Bool
  | .null, .null => true
  | .flag a, .flag b => a = b
  | .integer a, .integer b => a = b
  | .real a, .real b => a.same b
  | .text a, .text b => a = b
  | .sequence a, .sequence b => sameItems a b
  | .mapping a, .mapping b => a.length = b.length && covers a b
  | .tagged tag a, .tagged other b => tag = other && a.same b
  | _, _ => false
def sameItems : List Value → List Value → Bool
  | [], [] => true
  | a :: as, b :: bs => a.same b && sameItems as bs
  | _, _ => false
def covers : List (Value × Value) → List (Value × Value) → Bool
  | [], _ => true
  | (key, value) :: rest, others =>
      (others.any fun (key', value') => key.same key' && value.same value') && covers rest others
end

def writtenTag (tag : String) : String := "!" ++ tag

/-- Why a value has no JSON value. -/
inductive Obstacle where
  | keyNotText
  | keyNotFinite
deriving DecidableEq

def Obstacle.message : Obstacle → String
  | .keyNotText => "key must be a string"
  | .keyNotFinite => "float key must be finite (got NaN or +/-inf)"

def keyText : Value → Except Obstacle String
  | .text value => .ok value
  | .flag value => .ok (toString value)
  | .integer value => .ok (toString value)
  | .real (.finite value) => .ok value.text
  | .real _ => .error .keyNotFinite
  | _ => .error .keyNotText

mutual
/-- The JSON value; numbers that are not finite become null. -/
def toJson : Value → Except Obstacle Json
  | .null => .ok .null
  | .flag value => .ok (.flag value)
  | .integer value => .ok (.integer value)
  | .real (.finite value) => .ok (.number (.float value))
  | .real _ => .ok .null
  | .text value => .ok (.text value)
  | .sequence items => (itemsToJson items).map .array
  | .mapping members => (membersToJson members).map .object
  | .tagged tag value => value.toJson.map fun value => .object [(writtenTag tag, value)]
def itemsToJson : List Value → Except Obstacle (List Json)
  | [] => .ok []
  | item :: rest => do
      let item ← item.toJson
      return item :: (← itemsToJson rest)
def membersToJson : List (Value × Value) → Except Obstacle (List (String × Json))
  | [] => .ok []
  | (key, value) :: rest => do
      let key ← key.keyText
      let value ← value.toJson
      return (key, value) :: (← membersToJson rest)
end

end Value

end OperatorConfig.Yaml
