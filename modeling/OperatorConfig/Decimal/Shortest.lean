import OperatorConfig.Decimal.Double

/-!
# Shortest decimals

The decimal with the fewest digits that rounds to a given binary64 number, and of those with as few
digits the nearest to it. The decimals that round to a number form an interval around it; on each grid
of decimals with one, two, … digits the number's two neighbours are tried, and the first grid with one
of them inside the interval gives the answer.
-/

namespace OperatorConfig.Decimal

/-- `digits * 10 ^ power`. -/
structure Digits where
  digits : Nat
  power : Int
deriving DecidableEq

/-- The power of ten just above `num / den`: least `p` with `num / den < 10 ^ p`. -/
def magnitude (num den : Nat) : Int :=
  if den ≤ num then ((Nat.toDigits 10 (num / den)).length : Int)
  else small 400 num 1
where
  /-- Counts the factors of ten that keep the quotient below one. -/
  small : Nat → Nat → Int → Int
    | 0, _, p => p
    | steps + 1, num, p =>
        if den ≤ num * 10 then p - 1
        else small steps (num * 10) (p - 1)

/-- Whether `num / den` rounds to the number with the given mantissa and exponent. -/
def roundsTo (mantissa : Nat) (exponent : Int) (num den : Nat) : Bool :=
  let below := if mantissa = 0x10000000000000 ∧ Double.leastExponent < exponent then 1 else 2
  let (a, b) := Double.scaled num den (exponent - 2)
  let low := (4 * mantissa - below) * b
  let high := (4 * mantissa + 2) * b
  if mantissa % 2 = 0 then low ≤ a && a ≤ high else low < a && a < high

/-- The neighbour of `num / den` on the grid of multiples of `10 ^ power` that rounds as it does. -/
def onGrid (mantissa : Nat) (exponent : Int) (num den : Nat) (power : Int) : Option Nat :=
  let unit : Nat × Nat := if 0 ≤ power then (Nat.pow 10 power.toNat, 1) else (1, Nat.pow 10 (-power).toNat)
  let a := num * unit.2
  let b := den * unit.1
  let lower := a / b
  let fits (n : Nat) := roundsTo mantissa exponent (n * unit.1) unit.2
  let nearer := if 2 * (a % b) < b ∨ (2 * (a % b) = b ∧ lower % 2 = 0) then lower else lower + 1
  let farther := if nearer = lower then lower + 1 else lower
  if fits nearer then some nearer else if fits farther then some farther else none

/-- Moves the zeros at the end of the digits into the power. -/
def Digits.trim : Nat → Digits → Digits
  | 0, d => d
  | steps + 1, d =>
      if d.digits % 10 = 0 ∧ d.digits ≠ 0 then trim steps ⟨d.digits / 10, d.power + 1⟩ else d

/-- The shortest decimal of a positive number. -/
def shortest (x : Double) : Digits :=
  let (num, den) := x.ratio
  let top := magnitude num den
  Digits.trim 400 (search num den top 17 1)
where
  search (num den : Nat) (top : Int) : Nat → Int → Digits
    | 0, count => ⟨(onGrid x.mantissa x.exponent num den (top - count)).getD 0, top - count⟩
    | steps + 1, count =>
        match onGrid x.mantissa x.exponent num den (top - count) with
        | some n => ⟨n, top - count⟩
        | none => search num den top steps (count + 1)

/-- How a number is written: positional between the bounds on the place of its first digit, and with
an exponent beyond them. -/
structure Spelling where
  /-- The first digit of a positional number stands behind at most this many zeros. -/
  leastPlace : Int
  /-- A positional number has at most this many digits before the point. -/
  greatestPlace : Int
  /-- Whether a positive exponent has a sign. -/
  signed : Bool
deriving DecidableEq

/-- Documents and messages write numbers from `0.00001` up to `10^16` positionally. -/
def documentSpelling : Spelling := ⟨-5, 16, true⟩

def zeros (n : Int) : String := String.ofList (List.replicate n.toNat '0')

def Double.text (x : Double) (spelling : Spelling := documentSpelling) : String :=
  let sign := if x.negative then "-" else ""
  if x.isZero then sign ++ "0.0"
  else
    let d := shortest x
    let shown := toString d.digits
    let place : Int := shown.length + d.power
    let whole (n : Int) := String.ofList (shown.toList.take n.toNat)
    let rest (n : Int) := String.ofList (shown.toList.drop n.toNat)
    sign ++
      if 0 ≤ d.power ∧ place ≤ spelling.greatestPlace then shown ++ zeros d.power ++ ".0"
      else if 0 < place ∧ place ≤ spelling.greatestPlace then whole place ++ "." ++ rest place
      else if spelling.leastPlace < place ∧ place ≤ 0 then "0." ++ zeros (-place) ++ shown
      else
        let exponent := place - 1
        let mark := "e" ++ (if spelling.signed ∧ 0 ≤ exponent then "+" else "") ++ toString exponent
        if shown.length = 1 then shown ++ mark else whole 1 ++ "." ++ rest 1 ++ mark

end OperatorConfig.Decimal
