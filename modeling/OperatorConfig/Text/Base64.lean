/-!
# Base64

Bytes as texts of 64 symbols: four symbols for three bytes, and equals signs to fill up the last four.
A reader wants the canonical form, with all fillers and with zeros for the bits that no byte takes.
-/

namespace OperatorConfig.Text.Base64

inductive Fault where
  | symbol (byte offset : Nat)
  | lastSymbol (byte offset : Nat)
  | length (count : Nat)
  | padding
deriving DecidableEq

def Fault.message : Fault → String
  | .symbol byte offset => s!"Invalid symbol {byte}, offset {offset}."
  | .lastSymbol byte offset => s!"Invalid last symbol {byte}, offset {offset}."
  | .length count => s!"Invalid input length: {count}"
  | .padding => "Invalid padding"

/-- The six bits that a symbol stands for. -/
def value? (byte : UInt8) : Option Nat :=
  let n := byte.toNat
  if 65 ≤ n ∧ n ≤ 90 then some (n - 65)
  else if 97 ≤ n ∧ n ≤ 122 then some (n - 71)
  else if 48 ≤ n ∧ n ≤ 57 then some (n + 4)
  else if n = 43 then some 62
  else if n = 47 then some 63
  else none

def valueAt (offset : Nat) (byte : UInt8) : Except Fault Nat :=
  match value? byte with
  | some value => .ok value
  | none => .error (.symbol byte.toNat offset)

def filler : UInt8 := 61

/-- The symbols of the last four that come before the fillers; `index` of them have been seen. -/
def lastValues (offset index : Nat) : List UInt8 → Except Fault (List Nat)
  | [] => .ok []
  | byte :: rest =>
      if byte = filler then
        if index < 2 ∨ rest.any (· ≠ filler) then .error (.symbol filler.toNat (offset + index))
        else .ok []
      else do
        let value ← valueAt (offset + index) byte
        return value :: (← lastValues offset (index + 1) rest)

def lastBytes (offset : Nat) (group : List UInt8) : Except Fault (List UInt8) := do
  let values ← lastValues offset 0 group
  let last : Nat := ((group.take values.length).getLast?.map (·.toNat)).getD 0
  let misfit : Fault := .lastSymbol last (offset + values.length - 1)
  if values.length < 2 then throw (.length (offset + values.length))
  if group.length ≠ 4 then throw .padding
  match values with
  | [a, b] =>
      if b % 16 = 0 then return [UInt8.ofNat (a * 4 + b / 16)] else throw misfit
  | [a, b, c] =>
      if c % 4 = 0 then
        return [UInt8.ofNat (a * 4 + b / 16), UInt8.ofNat (b % 16 * 16 + c / 4)]
      else throw misfit
  | [a, b, c, d] =>
      return [UInt8.ofNat (a * 4 + b / 16), UInt8.ofNat (b % 16 * 16 + c / 4),
        UInt8.ofNat (c % 4 * 64 + d)]
  | _ => return []

def decodeFrom (offset : Nat) : List UInt8 → Except Fault (List UInt8)
  | a :: b :: c :: d :: next :: rest => do
      let a ← valueAt offset a
      let b ← valueAt (offset + 1) b
      let c ← valueAt (offset + 2) c
      let d ← valueAt (offset + 3) d
      let bytes ← decodeFrom (offset + 4) (next :: rest)
      return UInt8.ofNat (a * 4 + b / 16) :: UInt8.ofNat (b % 16 * 16 + c / 4)
        :: UInt8.ofNat (c % 4 * 64 + d) :: bytes
  | [] => .ok []
  | group => lastBytes offset group

/-- The bytes that a text stands for. A stray last symbol is noticed before all else. -/
def decode (symbols : List UInt8) : Except Fault (List UInt8) :=
  match symbols.getLast? with
  | some last =>
      if symbols.length % 4 = 1 ∧ last ≠ filler ∧ value? last = none then
        .error (.symbol last.toNat (symbols.length - 1))
      else decodeFrom 0 symbols
  | none => .ok []

end OperatorConfig.Text.Base64
