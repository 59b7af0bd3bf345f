import OperatorConfig.Schema.Mismatch
import OperatorConfig.Yaml.Quotation
import OperatorConfig.Yaml.Value

/-!
# What a plain scalar means

A scalar without quotes may be null, a flag, an integer or a real number; otherwise it is a text.
Integers are decimal, or hexadecimal, octal or binary with a mark in front. Digits behind a leading zero
are a text.
-/

namespace OperatorConfig.Yaml

open Decimal (Double)

/-- The meaning of a scalar. -/
inductive Meaning where
  | null
  | flag (value : Bool)
  | integer (value : Int)
  /-- An integer of more than 64 and up to 128 bits. -/
  | wide (value : Int)
  | real (value : Real)
  | text (value : String)
deriving DecidableEq

namespace Meaning

/-- The words for null. -/
def isNull (s : String) : Bool := s = "null" || s = "Null" || s = "NULL" || s = "~"

def flag? (s : String) : Option Bool :=
  if s = "true" || s = "True" || s = "TRUE" then some true
  else if s = "false" || s = "False" || s = "FALSE" then some false
  else none

def natural? (base : Nat) (digits : List Char) : Option Nat :=
  if digits.isEmpty then none
  else
    digits.foldl
      (fun value digit => do
        let value ← value
        let digit ← hexadecimal? digit
        if digit < base then some (value * base + digit) else none)
      (some 0)

/-- Whether digits stand behind a leading zero. -/
def hasLeadingZero (s : List Char) : Bool :=
  match s with
  | '+' :: rest => among rest
  | '-' :: rest => among rest
  | rest => among rest
where
  among : List Char → Bool
    | '0' :: c :: rest => (c :: rest).all Char.isDigit
    | _ => false

def magnitude? : List Char → Option Nat
  | '0' :: 'x' :: rest => natural? 16 rest
  | '0' :: 'o' :: rest => natural? 8 rest
  | '0' :: 'b' :: rest => natural? 2 rest
  | digits => if hasLeadingZero digits then none else natural? 10 digits

def integerValue? : List Char → Option Int
  | '+' :: rest => (magnitude? rest).map fun n => (n : Int)
  | '-' :: rest => (magnitude? rest).map fun n => -(n : Int)
  | digits => (magnitude? digits).map fun n => (n : Int)

/-- An integer of up to 128 bits. -/
def integer? (s : List Char) : Option Meaning := do
  let value ← integerValue? s
  if -0x8000000000000000 ≤ value ∧ value < UInt64.size then return .integer value
  else if -0x80000000000000000000000000000000 ≤ value
      ∧ value < 0x100000000000000000000000000000000 then return .wide value
  else none

def exponent? : List Char → Option Int
  | [] => some 0
  | mark :: rest =>
      if mark = 'e' ∨ mark = 'E' then
        match rest with
        | '+' :: digits => (natural? 10 digits).map fun n => (n : Int)
        | '-' :: digits => (natural? 10 digits).map fun n => -(n : Int)
        | digits => (natural? 10 digits).map fun n => (n : Int)
      else none

/-- A finite number without a sign. -/
def unsigned? (s : List Char) : Option Double := do
  let (whole, rest) := s.span Char.isDigit
  let (fraction, rest) :=
    match rest with
    | '.' :: rest => rest.span Char.isDigit
    | rest => ([], rest)
  let digits ← natural? 10 (whole ++ fraction)
  let exponent ← exponent? rest
  Double.ofDecimal digits (exponent - fraction.length)

/-- A real number: finite, infinite or undefined. -/
def real? (s : List Char) : Option Real :=
  match s with
  | '+' :: rest => unsignedReal? rest
  | '-' :: rest =>
      if isInfinity rest then some (.infinite true)
      else (unsigned? rest).map fun value => .finite (value.withSign true)
  | rest =>
      if rest ∈ [".nan".toList, ".NaN".toList, ".NAN".toList] then some .undefined
      else unsignedReal? rest
where
  isInfinity (s : List Char) : Bool := s ∈ [".inf".toList, ".Inf".toList, ".INF".toList]
  unsignedReal? (s : List Char) : Option Real :=
    if isInfinity s then some (.infinite false) else (unsigned? s).map .finite

/-- The meaning of a scalar without quotes and tag. -/
def ofPlain (s : String) : Meaning :=
  if s = "" || isNull s then .null
  else
    match flag? s with
    | some value => .flag value
    | none =>
        match integer? s.toList with
        | some meaning => meaning
        | none =>
            if hasLeadingZero s.toList then .text s
            else
              match real? s.toList with
              | some value => .real value
              | none => .text s

open Schema (Mismatch)

/-- The meaning that a tag of the core schema forces on a scalar; `none` for any other tag. -/
def forced? (tag : String) (s : String) : Option (Except Mismatch Meaning) :=
  let expected (wanted : String) : Option Meaning → Except Mismatch Meaning
    | some meaning => .ok meaning
    | none => .error (.value (.text s) wanted)
  match tag with
  | "tag:yaml.org,2002:bool" => some (expected "a boolean" ((flag? s).map .flag))
  | "tag:yaml.org,2002:int" => some (expected "an integer" (integer? s.toList))
  | "tag:yaml.org,2002:float" => some (expected "a float" ((real? s.toList).map .real))
  | "tag:yaml.org,2002:null" => some (expected "null" (if isNull s then some .null else none))
  | _ => none

end Meaning

end OperatorConfig.Yaml
