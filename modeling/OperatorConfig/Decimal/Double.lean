/-!
# Binary64 numbers

The finite numbers of the 64-bit binary format as a sign, a mantissa below `2^53` and a power of two,
with rounding from a quotient of naturals. A quotient is rounded to the nearest number, and a quotient
halfway between two to the one with the even mantissa.
-/

namespace OperatorConfig.Decimal

/-- The number `± mantissa * 2 ^ exponent`. -/
structure Double where
  negative : Bool
  mantissa : Nat
  exponent : Int
deriving DecidableEq, Inhabited

namespace Double

/-- The exponent of the least positive number. -/
def leastExponent : Int := -1074

/-- The largest exponent of a finite number. -/
def greatestExponent : Int := 971

def zero (negative : Bool) : Double := ⟨negative, 0, leastExponent⟩

def isZero (x : Double) : Bool := x.mantissa = 0

def withSign (negative : Bool) (x : Double) : Double := { x with negative }

/-- `value / 2 ^ exponent` as a quotient of naturals. -/
def scaled (num den : Nat) (exponent : Int) : Nat × Nat :=
  if 0 ≤ exponent then (num, den * Nat.pow 2 exponent.toNat)
  else (num * Nat.pow 2 (-exponent).toNat, den)

/-- The quotient rounded to a natural, a half to the even one. -/
def roundQuotient (num den : Nat) : Nat :=
  let whole := num / den
  let twice := 2 * (num % den)
  if den < twice ∨ (twice = den ∧ whole % 2 = 1) then whole + 1 else whole

/-- The exponent at which the whole part of `num / den` has 53 bits, or the least one. -/
def exponentFor (num den : Nat) : Int :=
  let guess := max ((num.log2 : Int) - den.log2 - 53) leastExponent
  let (a, b) := scaled num den guess
  if a / b < 0x20000000000000 then guess else guess + 1

/-- The number nearest to `num / den`; `none` when that is beyond the finite ones. -/
def nearest (num den : Nat) : Option Double :=
  if num = 0 then some (zero false)
  else
    let exponent := exponentFor num den
    let (a, b) := scaled num den exponent
    let mantissa := roundQuotient a b
    let (mantissa, exponent) :=
      if mantissa = 0x20000000000000 then (0x10000000000000, exponent + 1) else (mantissa, exponent)
    if exponent ≤ greatestExponent then some ⟨false, mantissa, exponent⟩ else none

/-- The magnitude as a quotient of naturals. -/
def ratio (x : Double) : Nat × Nat :=
  if 0 ≤ x.exponent then (x.mantissa * Nat.pow 2 x.exponent.toNat, 1)
  else (x.mantissa, Nat.pow 2 (-x.exponent).toNat)

/-- The number nearest to the product of two magnitudes. -/
def mul? (x y : Double) : Option Double :=
  let (a, b) := x.ratio
  let (c, d) := y.ratio
  nearest (a * c) (b * d)

/-- The number nearest to the quotient of two magnitudes, of which the second is not zero. -/
def div? (x y : Double) : Option Double :=
  let (a, b) := x.ratio
  let (c, d) := y.ratio
  nearest (a * d) (b * c)

/-- The number nearest to `10 ^ power`, for a power up to 308. -/
def tenTo (power : Nat) : Double :=
  (nearest (Nat.pow 10 power) 1).getD (zero false)

/-- The number nearest to `digits * 10 ^ power`. -/
def ofDecimal (digits : Nat) (power : Int) : Option Double :=
  if digits = 0 then some (zero false)
  else if 400 < power then none
  else if power < -400 - (digits.log2 : Int) then some (zero false)
  else if 0 ≤ power then nearest (digits * Nat.pow 10 power.toNat) 1
  else nearest digits (Nat.pow 10 (-power).toNat)

end Double

end OperatorConfig.Decimal
