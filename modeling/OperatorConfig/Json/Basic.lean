import OperatorConfig.Decimal.Double

/-!
# JSON values

A document as data. The members of an object are a list: a text may repeat a key and gives its members
in an order, and both are kept until the value is put into canonical form, in which keys increase and
the last of several members of one key has won.
-/

namespace OperatorConfig

open Decimal (Double)

/-- A number: an integer, or a binary64 number where it was written with a fraction, with an exponent
or with too many digits. -/
inductive Json.Number where
  | integer (value : Int)
  | float (value : Double)
deriving DecidableEq, Inhabited

inductive Json where
  | null
  | flag (value : Bool)
  | number (value : Json.Number)
  | text (value : String)
  | array (items : List Json)
  | object (members : List (String × Json))
deriving Inhabited

namespace Json

abbrev integer (value : Int) : Json := .number (.integer value)

/-- Adds a member at the place of its key, unless there is one of that key. -/
def placeMember (key : String) (value : Json) : List (String × Json) → List (String × Json)
  | [] => [(key, value)]
  | (other, held) :: rest =>
      if key < other then (key, value) :: (other, held) :: rest
      else if key = other then (other, held) :: rest
      else (other, held) :: placeMember key value rest

mutual
/-- Sorts the members of every object by key and keeps the last of each key. -/
def canonical : Json → Json
  | .array items => .array (canonicalItems items)
  | .object members => .object (canonicalMembers members)
  | .null => .null
  | .flag value => .flag value
  | .number value => .number value
  | .text value => .text value
def canonicalItems : List Json → List Json
  | [] => []
  | item :: rest => item.canonical :: canonicalItems rest
def canonicalMembers : List (String × Json) → List (String × Json)
  | [] => []
  | (key, value) :: rest => placeMember key value.canonical (canonicalMembers rest)
end

/-- The first member of a key in a list of members. -/
def lookup (key : String) : List (String × Json) → Option Json
  | [] => none
  | (other, value) :: rest => if key = other then some value else lookup key rest

/-- The value of a member; `none` also where the value is no object. -/
def get? (value : Json) (key : String) : Option Json :=
  match value with
  | .object members => lookup key members
  | _ => none

/-- The value at the end of a path of keys. -/
def at? (value : Json) : List String → Option Json
  | [] => some value
  | key :: keys => (value.get? key).bind (·.at? keys)

def text? : Json → Option String
  | .text value => some value
  | _ => none

def items? : Json → Option (List Json)
  | .array items => some items
  | _ => none

def members? : Json → Option (List (String × Json))
  | .object members => some members
  | _ => none

def texts (values : List String) : Json :=
  .array (values.map .text)

end Json

end OperatorConfig
