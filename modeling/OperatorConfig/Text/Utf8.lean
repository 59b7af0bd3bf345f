/-!
# Text as bytes

A text and its UTF-8 bytes. Bytes that are no text are read piece by piece: a piece is a character or
a longest run of bytes that begins like one and does not end like one.
-/

namespace OperatorConfig.Text

def bytes (s : String) : List UInt8 :=
  s.toByteArray.data.toList

def ofBytes? (bytes : List UInt8) : Option String :=
  String.fromUTF8? ⟨bytes.toArray⟩

/-- What a run of bytes stands for. -/
inductive Piece where
  | character (c : Char)
  /-- Bytes of no character; `truncated` when only the end of the input cut a character short. -/
  | invalid (truncated : Bool)
deriving DecidableEq

/-- The values that may follow the first byte of a character, place by place; `none` where no
character begins with the byte. -/
def continuations (first : Nat) : Option (List (Nat × Nat)) :=
  if first < 0x80 then some []
  else if first < 0xC2 then none
  else if first < 0xE0 then some [(0x80, 0xBF)]
  else if first = 0xE0 then some [(0xA0, 0xBF), (0x80, 0xBF)]
  else if first = 0xED then some [(0x80, 0x9F), (0x80, 0xBF)]
  else if first < 0xF0 then some [(0x80, 0xBF), (0x80, 0xBF)]
  else if first = 0xF0 then some [(0x90, 0xBF), (0x80, 0xBF), (0x80, 0xBF)]
  else if first < 0xF4 then some [(0x80, 0xBF), (0x80, 0xBF), (0x80, 0xBF)]
  else if first = 0xF4 then some [(0x80, 0x8F), (0x80, 0xBF), (0x80, 0xBF)]
  else none

/-- The bits of a first byte that belong to the code point. -/
def leadingBits (first : Nat) : Nat :=
  if first < 0x80 then first
  else if first < 0xE0 then first % 0x20
  else if first < 0xF0 then first % 0x10
  else first % 8

/-- Follows the continuation bytes of a character; counts those that fit. -/
def follow (code count : Nat) : List (Nat × Nat) → List UInt8 → Piece × Nat
  | [], _ => (.character (Char.ofNat code), count)
  | _ :: _, [] => (.invalid true, count)
  | (low, high) :: wanted, byte :: rest =>
      if low ≤ byte.toNat ∧ byte.toNat ≤ high then
        follow (code * 0x40 + byte.toNat % 0x40) (count + 1) wanted rest
      else (.invalid false, count)

/-- The piece that begins with `first`, and how many of the bytes after it belong to it. -/
def pieceAt (first : UInt8) (rest : List UInt8) : Piece × Nat :=
  match continuations first.toNat with
  | none => (.invalid false, 0)
  | some wanted => follow (leadingBits first.toNat) 0 wanted rest

def pieces : List UInt8 → List (Piece × Nat)
  | [] => []
  | first :: rest =>
      let (piece, more) := pieceAt first rest
      (piece, more + 1) :: pieces (rest.drop more)
termination_by bytes => bytes.length
decreasing_by grind

/-- Reads bytes as text, with a replacement character for each piece that is none. -/
def ofBytesLossy (bytes : List UInt8) : String :=
  String.ofList <| (pieces bytes).map fun
    | (.character c, _) => c
    | (.invalid _, _) => Char.ofNat 0xFFFD

/-- Where bytes stop being text. -/
structure Utf8Fault where
  /-- The number of bytes before it that are text. -/
  offset : Nat
  /-- The number of bytes that are none, when more input could not mend them. -/
  length : Option Nat
deriving DecidableEq

def utf8Fault? (bytes : List UInt8) : Option Utf8Fault :=
  go 0 (pieces bytes)
where
  go (offset : Nat) : List (Piece × Nat) → Option Utf8Fault
    | [] => none
    | (.character _, length) :: rest => go (offset + length) rest
    | (.invalid truncated, length) :: _ =>
        some ⟨offset, if truncated then none else some length⟩

def Utf8Fault.message (fault : Utf8Fault) : String :=
  match fault.length with
  | some length => s!"invalid utf-8 sequence of {length} bytes from index {fault.offset}"
  | none => s!"incomplete utf-8 byte sequence from index {fault.offset}"

end OperatorConfig.Text
