import OperatorConfig.Text.Utf8

/-!
# Percent signs for bytes

In a URL a byte may be written as a percent sign and two hexadecimal digits. Each part of a URL has a set
of characters that must be written so; bytes beyond ASCII always are.
-/

namespace OperatorConfig.Text.Percent

def digit (n : Nat) : Char :=
  if n < 10 then Char.ofNat (48 + n) else Char.ofNat (55 + n)

def byte (value : UInt8) : List Char :=
  ['%', digit (value.toNat / 16), digit (value.toNat % 16)]

/-- The characters of a text, with those of a set written as bytes. -/
def encodeChars (set : Char → Bool) (cs : List Char) : List Char :=
  cs.flatMap fun c => if set c then (String.utf8EncodeChar c).flatMap byte else [c]

def encode (set : Char → Bool) (cs : List Char) : String :=
  String.ofList (encodeChars set cs)

def value? (byte : UInt8) : Option Nat :=
  let n := byte.toNat
  if 48 ≤ n ∧ n ≤ 57 then some (n - 48)
  else if 65 ≤ n ∧ n ≤ 70 then some (n - 55)
  else if 97 ≤ n ∧ n ≤ 102 then some (n - 87)
  else none

/-- The bytes of a text, with those that are written behind percent signs; a percent sign without two
digits stands for itself. -/
def decode : List UInt8 → List UInt8
  | 0x25 :: a :: b :: rest =>
      match value? a, value? b with
      | some high, some low => UInt8.ofNat (high * 16 + low) :: decode rest
      | _, _ => 0x25 :: decode (a :: b :: rest)
  | byte :: rest => byte :: decode rest
  | [] => []

/-! ### Sets -/

/-- Controls and all beyond ASCII. -/
def control (c : Char) : Bool :=
  c.toNat < 0x20 || 0x7F ≤ c.toNat

def query (c : Char) : Bool :=
  control c || c = ' ' || c = '"' || c = '#' || c = '<' || c = '>'

/-- What is written as bytes in a query of the web. -/
def webQuery (c : Char) : Bool :=
  query c || c = '\''

def fragment (c : Char) : Bool :=
  control c || c = ' ' || c = '"' || c = '<' || c = '>' || c = '`'

def path (c : Char) : Bool :=
  fragment c || c = '#' || c = '?' || c = '{' || c = '}'

def user (c : Char) : Bool :=
  path c || c = '/' || c = ':' || c = ';' || c = '=' || c = '@' || c = '[' || c = '\\' || c = ']'
    || c = '^' || c = '|'

end OperatorConfig.Text.Percent
