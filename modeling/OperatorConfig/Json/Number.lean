import OperatorConfig.Json.Basic
import OperatorConfig.Json.Fault

/-!
# The value of a written number

A number without fraction and exponent is an integer as long as it fits into 64 bits. Any other is
read as a binary64 number in two steps, each rounded: as many digits as fit into 64 bits are taken as
one natural, and that is multiplied or divided by a power of ten. The result can differ from the
nearest number by the rounding of the second step.
-/

namespace OperatorConfig.Json

open Decimal (Double)

/-- The parts of a written number; `exponent` is what stands behind the mark. -/
structure Numeral where
  negative : Bool
  whole : List UInt8
  fraction : List UInt8
  exponent : Option (Bool × List UInt8)

def digitValue (byte : UInt8) : Nat := byte.toNat - 48

/-- Digits taken in as long as they fit into 64 bits, and how many were left. -/
def takeDigits : Nat → List UInt8 → Nat × Nat
  | value, [] => (value, 0)
  | value, digit :: rest =>
      let next := value * 10 + digitValue digit
      if next < UInt64.size then takeDigits next rest else (value, rest.length + 1)

/-- The digits of an exponent as long as they stay below `2^31`, and how many were read when they no
longer did. -/
def exponentValue : Nat → Nat → List UInt8 → Nat ⊕ Nat
  | value, _, [] => .inl value
  | value, count, digit :: rest =>
      let next := value * 10 + digitValue digit
      if next < 0x80000000 then exponentValue next (count + 1) rest else .inr (count + 1)

/-- Divides by the largest power of ten until the exponent is small enough for one more step. -/
def lowerExponent (x : Double) (exponent : Nat) : Double × Nat :=
  if 308 < exponent ∧ ¬ x.isZero then
    lowerExponent ((x.div? (Double.tenTo 308)).getD x) (exponent - 308)
  else (x, exponent)
termination_by exponent

/-- `significand * 10 ^ exponent` in two rounded steps; `none` beyond the finite numbers. -/
def fromParts (significand : Nat) (exponent : Int) : Option Double :=
  match Double.nearest significand 1 with
  | none => none
  | some x =>
      if 0 ≤ exponent then
        if exponent ≤ 308 then x.mul? (Double.tenTo exponent.toNat)
        else if x.isZero then some x else none
      else
        let (x, exponent) := lowerExponent x (-exponent).toNat
        if x.isZero then some x else x.div? (Double.tenTo exponent)

namespace Numeral

/-- The value, or the number of exponent digits read when it was found out of range (`none`: all). -/
def value (n : Numeral) : Except (Option Nat) Number :=
  let (significand, overflow) := takeDigits 0 n.whole
  let signed (x : Option Double) : Except (Option Nat) Number :=
    match x with
    | some x => .ok (.float (x.withSign n.negative))
    | none => .error none
  if overflow = 0 ∧ n.fraction = [] ∧ n.exponent.isNone then
    if ¬ n.negative then .ok (.integer significand)
    else if significand = 0 ∨ 0x8000000000000000 < significand then signed (Double.nearest significand 1)
    else .ok (.integer (-(significand : Int)))
  else
    let (significand, left) := takeDigits significand n.fraction
    let power : Int := overflow - (n.fraction.length - left : Nat)
    match n.exponent with
    | none => signed (fromParts significand power)
    | some (down, digits) =>
        match exponentValue 0 0 digits with
        | .inl e => signed (fromParts significand (if down then power - e else power + e))
        | .inr count =>
            if significand ≠ 0 ∧ ¬ down then .error (some count)
            else signed (some (Double.zero false))

end Numeral

end OperatorConfig.Json
