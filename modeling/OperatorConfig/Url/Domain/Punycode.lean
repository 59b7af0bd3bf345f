/-!
# Labels in ASCII letters and digits

A label with characters beyond ASCII is written as its ASCII characters, a hyphen if there are any, and
digits that tell which other characters stand where. The others are inserted in the order of their code
points; a number tells how many possible insertions are passed over before the next one. Numbers are
written in digits from the least significant on, in a variable base that adapts to the numbers so far.
-/

namespace OperatorConfig.Url.Domain.Punycode

def base : Nat := 36

/-- The digit at which a number ends: digits from this one on are followed by others. -/
def threshold (bias place : Nat) : Nat :=
  if place ≤ bias + 1 then 1 else if bias + 26 ≤ place then 26 else place - bias

theorem one_le_threshold (bias place : Nat) : 1 ≤ threshold bias place := by
  unfold threshold
  split
  · exact Nat.le_refl 1
  · split <;> omega

theorem threshold_le (bias place : Nat) : threshold bias place ≤ 26 := by
  unfold threshold
  split
  · omega
  · split <;> omega

/-- Scales a number down until it is small, and counts how often. -/
def scaled (delta count : Nat) : Nat × Nat :=
  if 455 < delta then scaled (delta / 35) (count + 1) else (delta, count)
termination_by delta
decreasing_by exact Nat.div_lt_self (by omega) (by omega)

/-- The bias after a number, the `length`-th one. -/
def adapt (delta length : Nat) (isFirst : Bool) : Nat :=
  let delta := if isFirst then delta / 700 else delta / 2
  let (delta, count) := scaled (delta + delta / length) 0
  base * count + base * delta / (delta + 38)

def digitChar (digit : Nat) : Char :=
  Char.ofNat (if digit < 26 then 'a'.toNat + digit else '0'.toNat + (digit - 26))

def digit? (c : Char) : Option Nat :=
  if c.isDigit then some (c.toNat - '0'.toNat + 26)
  else if 'a' ≤ c ∧ c ≤ 'z' then some (c.toNat - 'a'.toNat)
  else if 'A' ≤ c ∧ c ≤ 'Z' then some (c.toNat - 'A'.toNat)
  else none

def digits (bias place n : Nat) : List Char :=
  let limit := threshold bias place
  if limit ≤ n then
    digitChar (limit + (n - limit) % (base - limit))
      :: digits bias (place + base) ((n - limit) / (base - limit))
  else [digitChar n]
termination_by n
decreasing_by
  have h := one_le_threshold bias place
  have h' := threshold_le bias place
  have : (n - threshold bias place) / (base - threshold bias place)
      ≤ n - threshold bias place := Nat.div_le_self _ _
  simp only [limit] at *
  omega

/-- A label under encoding: what is passed over so far, the bias, the characters written, and the
digits in reverse. -/
structure Encoding where
  delta : Nat := 0
  bias : Nat := 72
  written : Nat
  output : List Char := []

/-- Goes past one character of a label, when the code point `code` is due. -/
def Encoding.pass (basic code : Nat) (state : Encoding) (c : Char) : Encoding :=
  if c.toNat < code then { state with delta := state.delta + 1 }
  else if c.toNat = code then
    { delta := 0
      bias := adapt state.delta (state.written + 1) (state.written = basic)
      written := state.written + 1
      output := (digits state.bias base state.delta).reverse ++ state.output }
  else state

/-- Writes the characters of the given code points, which increase from `next` on. -/
def Encoding.run (label : List Char) (basic next : Nat) (state : Encoding) : List Nat → Encoding
  | [] => state
  | code :: codes =>
      let start := { state with delta := state.delta + (code - next) * (state.written + 1) }
      let passed := label.foldl (Encoding.pass basic code) start
      Encoding.run label basic (code + 1) { passed with delta := passed.delta + 1 } codes

def placeCode (code : Nat) : List Nat → List Nat
  | [] => [code]
  | held :: rest =>
      if code < held then code :: held :: rest
      else if code = held then held :: rest
      else held :: placeCode code rest

def encode (label : List Char) : List Char :=
  let basic := label.filter (·.toNat < 0x80)
  let codes := ((label.map Char.toNat).filter (0x80 ≤ ·)).foldl (fun held code => placeCode code held) []
  let state := Encoding.run label basic.length 0x80 { written := basic.length } codes
  basic ++ (if basic = [] then [] else ['-']) ++ state.output.reverse

/-- A label under decoding: the characters so far, the next code point, where the last insertion took
place, the bias, and a number that is being read. -/
structure Decoding where
  output : List Char
  code : Nat := 0x80
  index : Nat := 0
  bias : Nat := 72
  isFirst : Bool := true
  /-- The number so far, counted from the last insertion on. -/
  value : Nat := 0
  weight : Nat := 1
  place : Nat := base

def isCharacter (code : Nat) : Bool :=
  code < 0xD800 || (0xDFFF < code && code ≤ 0x10FFFF)

/-- Puts the character in its place when a number ends. -/
def Decoding.insert (state : Decoding) : Option Decoding :=
  let length := state.output.length + 1
  let index := state.index + state.value
  let code := state.code + index / length
  if isCharacter code then
    let index := index % length
    some
      { output := state.output.take index ++ Char.ofNat code :: state.output.drop index
        code
        index := index + 1
        bias := adapt state.value length state.isFirst
        isFirst := false }
  else none

def Decoding.take (state : Decoding) (digit : Nat) : Option Decoding :=
  let value := state.value + digit * state.weight
  let limit := threshold state.bias state.place
  if UInt32.size ≤ state.index + value then none
  else if digit < limit then { state with value }.insert
  else
    let weight := state.weight * (base - limit)
    if UInt32.size ≤ weight then none
    else some { state with value, weight, place := state.place + base }

def decode (s : List Char) : Option (List Char) := do
  let (reversed, before) := s.reverse.span (· ≠ '-')
  let (basic, rest) :=
    match before with
    | _ :: c :: basic => ((c :: basic).reverse, reversed.reverse)
    | _ => ([], s)
  let state ← rest.foldlM
    (fun (state : Decoding) c => (digit? c).bind state.take) { output := basic }
  if state.weight = 1 ∧ state.place = base ∧ basic.all (·.toNat < 0x80) then return state.output else none

end OperatorConfig.Url.Domain.Punycode
