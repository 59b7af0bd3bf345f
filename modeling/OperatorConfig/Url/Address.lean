import OperatorConfig.Text.Lines
import OperatorConfig.Text.Quoted
import OperatorConfig.Url.Basic

/-!
# Internet addresses

The hosts of URLs that are numbers. An address of version 4 has up to four numbers, of which the last
stands for all the bytes that are left, in decimal, octal or hexadecimal. An address of version 6 has
eight numbers in hexadecimal, of which a run of zeros may be left out, and the last two may be written as
an address of version 4.
-/

namespace OperatorConfig.Url.Address

/-! ### Version 4 -/

def digitValue (c : Char) : Nat :=
  if c.isDigit then c.toNat - 48 else if 'a' ≤ c then c.toNat - 87 else c.toNat - 55

def isDigitIn (base : Nat) (c : Char) : Bool :=
  (c.isDigit || ('a' ≤ c && c ≤ 'f') || ('A' ≤ c && c ≤ 'F')) && digitValue c < base

def number (base : Nat) (digits : List Char) : Nat :=
  digits.foldl (fun value digit => value * base + digitValue digit) 0

/-- One number of an address. -/
def part? (cs : List Char) : Option Nat :=
  let (base, digits) :=
    match cs with
    | '0' :: 'x' :: digits => (16, digits)
    | '0' :: 'X' :: digits => (16, digits)
    | '0' :: c :: digits => (8, c :: digits)
    | digits => (10, digits)
  if cs ≠ [] ∧ digits.all (isDigitIn base) then some (number base digits) else none

/-- The parts of a host name, without an empty one at the end. -/
def parts (host : List Char) : List (List Char) :=
  let parts := Text.splitAt '.' host
  if parts.getLast? = some [] then parts.dropLast else parts

/-- Whether a host name must be an address of version 4: its last part is a number. -/
def endsInNumber (host : List Char) : Bool :=
  match (parts host).getLast? with
  | some last => (last ≠ [] && last.all Char.isDigit) || (part? last).isSome
  | none => false

/-- The address whose first numbers are bytes and whose last one stands for the rest. -/
def ofNumbers (numbers : List Nat) : Option Nat :=
  match numbers.reverse with
  | [] => none
  | last :: first =>
      if 4 < numbers.length ∨ first.any (255 < ·) ∨ Nat.pow 256 (4 - first.length) ≤ last then none
      else some (first.reverse.foldl (fun value byte => value * 256 + byte) 0
        * Nat.pow 256 (4 - first.length) + last)

def version4 (host : List Char) : Except UrlFault Nat :=
  match (parts host).mapM part? >>= ofNumbers with
  | some address => .ok address
  | none => .error .badIpv4

def version4Text (address : Nat) : String :=
  s!"{address / 0x1000000}.{address / 0x10000 % 256}.{address / 0x100 % 256}.{address % 256}"

/-! ### Version 6 -/

/-- The numbers of an address of version 6 that have been read, and how many of them stand before the
zeros that were left out. -/
structure Pieces where
  numbers : List Nat := []
  gap : Option Nat := none

/-- A byte in decimal without leading zeros, and what follows. -/
def byte? (cs : List Char) : Option (Nat × List Char) :=
  let digits := cs.takeWhile Char.isDigit
  let value := number 10 digits
  if digits = [] ∨ 255 < value ∨ (digits.head? = some '0' ∧ 1 < digits.length) then none
  else some (value, cs.dropWhile Char.isDigit)

/-- Four bytes with points between them, as two numbers. -/
def embedded? (cs : List Char) : Option (List Nat) := do
  let (a, rest) ← byte? cs
  let '.' :: rest := rest | none
  let (b, rest) ← byte? rest
  let '.' :: rest := rest | none
  let (c, rest) ← byte? rest
  let '.' :: rest := rest | none
  let (d, rest) ← byte? rest
  if rest = [] then some [a * 256 + b, c * 256 + d] else none

def hexDigits : Nat → List Char → List Char × List Char
  | 0, cs => ([], cs)
  | _, [] => ([], [])
  | count + 1, c :: rest =>
      if isDigitIn 16 c then
        let (digits, rest) := hexDigits count rest
        (c :: digits, rest)
      else ([], c :: rest)

/-- The numbers from a place in the text on, at most `count` more. -/
def piecesFrom : Nat → Pieces → List Char → Option Pieces
  | _, pieces, [] => some pieces
  | 0, _, _ => none
  | count + 1, pieces, cs =>
      match cs with
      | ':' :: rest =>
          if pieces.gap.isSome then none
          else piecesFrom count { pieces with gap := some pieces.numbers.length } rest
      | _ =>
          let (digits, rest) := hexDigits 4 cs
          let value := number 16 digits
          match rest with
          | [] => some { pieces with numbers := pieces.numbers ++ [value] }
          | '.' :: _ =>
              if digits = [] ∨ 6 < pieces.numbers.length + (if pieces.gap.isSome then 1 else 0) then none
              else
                (embedded? cs).map fun two => { pieces with numbers := pieces.numbers ++ two }
          | ':' :: rest =>
              if rest = [] then none
              else piecesFrom count { pieces with numbers := pieces.numbers ++ [value] } rest
          | _ => none

/-- The eight numbers, with zeros for those that were left out. -/
def Pieces.complete (pieces : Pieces) : Option (List Nat) :=
  match pieces.gap with
  | none => if pieces.numbers.length = 8 then some pieces.numbers else none
  | some before =>
      if pieces.numbers.length ≤ 7 then
        some (pieces.numbers.take before ++ List.replicate (8 - pieces.numbers.length) 0
          ++ pieces.numbers.drop before)
      else none

def version6 (cs : List Char) : Except UrlFault (List Nat) :=
  let pieces :=
    match cs with
    | ':' :: ':' :: rest => piecesFrom 7 { gap := some 0 } rest
    | ':' :: _ => none
    | [] => none
    | [_] => none
    | cs => piecesFrom 8 {} cs
  match pieces.bind Pieces.complete with
  | some numbers => .ok numbers
  | none => .error .badIpv6

/-- The length of the run of zeros at the beginning. -/
def zeros (numbers : List Nat) : Nat :=
  (numbers.takeWhile (· = 0)).length

/-- Where the first of the longest runs of zeros begins, and its length. -/
def longestZeros (index : Nat) : List Nat → Nat × Nat
  | [] => (index, 0)
  | n :: rest =>
      let here := zeros (n :: rest)
      let later := longestZeros (index + 1) rest
      if later.2 ≤ here then (index, here) else later

/-- An address of version 6 as it is written: the longest run of at least two zeros is left out. -/
def version6Text (numbers : List Nat) : String :=
  let joined (numbers : List Nat) := ":".intercalate (numbers.map Text.hex)
  let (start, length) := longestZeros 0 numbers
  if length < 2 then joined numbers
  else joined (numbers.take start) ++ "::" ++ joined (numbers.drop (start + length))

end OperatorConfig.Url.Address
