import OperatorConfig.Json.Number
import OperatorConfig.Text.Utf8

/-!
# Tokens of a JSON text

A document is cut into marks, words, numbers and texts, each with the offsets at which it starts and
stops. A text or number that is spelled well may still have no value (a lone surrogate, a number out
of range); then its token carries the fault, which matters only to a reader that wants the value. A
token that is spelled badly is the last one, and carries two faults: what a reader of the value says,
and what a reader that skips the value says.
-/

namespace OperatorConfig.Json

inductive Token.Kind where
  /-- One of the six marks. -/
  | mark (c : Char)
  | null
  | flag (value : Bool)
  | number (value : Except Fault Number)
  | text (content : Except Fault String)
  /-- A text that is not closed. -/
  | brokenText (strict skipped : Fault)
  /-- A word or number that breaks off. -/
  | brokenWord (strict skipped : Fault)
  /-- A byte with which nothing begins. -/
  | stray

structure Token where
  kind : Token.Kind
  start : Nat
  stop : Nat

namespace Token

/-- Whether nothing after the token can be read. -/
def Kind.isLast : Kind → Bool
  | .brokenText .. => true
  | .brokenWord .. => true
  | .stray => true
  | _ => false

/-- The byte as a character; bytes beyond ASCII are no character of the notation. -/
def ascii (byte : UInt8) : Char := Char.ofNat byte.toNat

def isDigit (byte : UInt8) : Bool := (ascii byte).isDigit

def isSpace (byte : UInt8) : Bool :=
  match ascii byte with
  | ' ' => true
  | '\n' => true
  | '\t' => true
  | '\r' => true
  | _ => false

/-! ### Texts -/

/-- A piece of a text as it is written. -/
inductive Piece where
  | byte (value : UInt8)
  /-- A backslash and a letter. -/
  | escape (value : UInt8)
  /-- A backslash, `u` and four hexadecimal digits. -/
  | unit (value : Nat)
deriving DecidableEq

/-- How a text ends, and where. -/
inductive Ending where
  | closed (offset : Nat)
  | ended (offset : Nat)
  | control (offset : Nat)
  | badEscape (offset : Nat)
deriving DecidableEq

def escaped (letter : UInt8) : Option UInt8 :=
  match ascii letter with
  | '"' => some 0x22
  | '\\' => some 0x5C
  | '/' => some 0x2F
  | 'b' => some 0x08
  | 'f' => some 0x0C
  | 'n' => some 0x0A
  | 'r' => some 0x0D
  | 't' => some 0x09
  | _ => none

def hexValue (byte : UInt8) : Option Nat :=
  let n := byte.toNat
  if 48 ≤ n ∧ n ≤ 57 then some (n - 48)
  else if 97 ≤ n ∧ n ≤ 102 then some (n - 87)
  else if 65 ≤ n ∧ n ≤ 70 then some (n - 55)
  else none

def hexUnit (a b c d : UInt8) : Option Nat :=
  match hexValue a, hexValue b, hexValue c, hexValue d with
  | some a, some b, some c, some d => some (((a * 16 + b) * 16 + c) * 16 + d)
  | _, _, _, _ => none

/-- Cuts a text after its opening quote into pieces, each with the offset behind it. -/
def piecesOf (offset : Nat) : List UInt8 → List (Piece × Nat) × Ending
  | [] => ([], .ended offset)
  | byte :: rest =>
      match ascii byte with
      | '"' => ([], .closed (offset + 1))
      | '\\' =>
          match rest with
          | [] => ([], .ended (offset + 1))
          | letter :: rest =>
              if ascii letter = 'u' then
                match rest with
                | a :: b :: c :: d :: rest =>
                    match hexUnit a b c d with
                    | none => ([], .badEscape (offset + 6))
                    | some value =>
                        let (pieces, ending) := piecesOf (offset + 6) rest
                        ((.unit value, offset + 6) :: pieces, ending)
                | short => ([], .ended (offset + 2 + short.length))
              else
                match escaped letter with
                | none => ([], .badEscape (offset + 2))
                | some value =>
                    let (pieces, ending) := piecesOf (offset + 2) rest
                    ((.escape value, offset + 2) :: pieces, ending)
      | _ =>
          if byte < 0x20 then ([], .control offset)
          else
            let (pieces, ending) := piecesOf (offset + 1) rest
            ((.byte byte, offset + 1) :: pieces, ending)

def isLeading (unit : Nat) : Bool := 0xD800 ≤ unit && unit ≤ 0xDBFF

def isTrailing (unit : Nat) : Bool := 0xDC00 ≤ unit && unit ≤ 0xDFFF

/-- What a reader says when a leading surrogate stands last before the end of the text. -/
def Ending.afterLeading (stop : Nat) : Ending → Fault
  | .ended offset => ⟨.endInString, offset⟩
  | .badEscape offset =>
      if offset = stop + 2 then ⟨.unpairedSurrogate, offset⟩ else ⟨.badEscape, offset⟩
  | _ => ⟨.unpairedSurrogate, stop + 1⟩

/-- The bytes that the pieces of a text stand for. -/
def contentBytes (ending : Ending) : List (Piece × Nat) → Except Fault (List UInt8)
  | [] =>
      match ending with
      | .closed _ => .ok []
      | .ended offset => .error ⟨.endInString, offset⟩
      | .control offset => .error ⟨.controlCharacter, offset + 1⟩
      | .badEscape offset => .error ⟨.badEscape, offset⟩
  | (.byte value, _) :: rest => (contentBytes ending rest).map (value :: ·)
  | (.escape value, _) :: rest => (contentBytes ending rest).map (value :: ·)
  | (.unit value, stop) :: rest =>
      if isTrailing value then .error ⟨.loneSurrogate, stop⟩
      else if isLeading value then
        match rest with
        | [] => .error (ending.afterLeading stop)
        | (.byte _, _) :: _ => .error ⟨.unpairedSurrogate, stop + 1⟩
        | (.escape _, _) :: _ => .error ⟨.unpairedSurrogate, stop + 2⟩
        | (.unit second, after) :: rest =>
            if isTrailing second then
              let code := 0x10000 + (value - 0xD800) * 0x400 + (second - 0xDC00)
              (contentBytes ending rest).map (String.utf8EncodeChar (Char.ofNat code) ++ ·)
            else .error ⟨.loneSurrogate, after⟩
      else (contentBytes ending rest).map (String.utf8EncodeChar (Char.ofNat value) ++ ·)

def content (pieces : List (Piece × Nat)) (ending : Ending) (stop : Nat) : Except Fault String :=
  match contentBytes ending pieces with
  | .error fault => .error fault
  | .ok bytes =>
      match Text.ofBytes? bytes with
      | some value => .ok value
      | none => .error ⟨.notUnicode, stop⟩

def textAfter (start : Nat) (rest : List UInt8) : Token :=
  let (pieces, ending) := piecesOf (start + 1) rest
  let broken (skipped : Fault) : Token :=
    match content pieces ending 0 with
    | .error strict => ⟨.brokenText strict skipped, start, skipped.offset⟩
    | .ok _ => ⟨.brokenText skipped skipped, start, skipped.offset⟩
  match ending with
  | .closed stop => ⟨.text (content pieces ending stop), start, stop⟩
  | .ended offset => broken ⟨.endInString, offset⟩
  | .control offset => broken ⟨.controlCharacter, offset⟩
  | .badEscape offset => broken ⟨.badEscape, offset⟩

/-! ### Words and numbers -/

/-- Compares the letters of a word with those that are due. -/
def wordAfter (kind : Kind) (start offset : Nat) : List Char → List UInt8 → Token
  | [], _ => ⟨kind, start, offset⟩
  | _ :: _, [] => ⟨.brokenWord ⟨.endInValue, offset⟩ ⟨.endInValue, offset⟩, start, offset⟩
  | letter :: due, byte :: rest =>
      if ascii byte = letter then wordAfter kind start (offset + 1) due rest
      else ⟨.brokenWord ⟨.noIdentifier, offset + 1⟩ ⟨.noIdentifier, offset + 1⟩, start, offset⟩

def numberToken (n : Numeral) (start stop : Nat) : Token :=
  let digits := (n.exponent.map (·.2.length)).getD 0
  match n.value with
  | .ok value => ⟨.number (.ok value), start, stop⟩
  | .error none => ⟨.number (.error ⟨.numberOutOfRange, stop⟩), start, stop⟩
  | .error (some read) =>
      ⟨.number (.error ⟨.numberOutOfRange, stop - digits + read⟩), start, stop⟩

/-- A number cut short at `offset` where a digit is due: `next` is what stands there. A reader that
looks ahead has read the byte at which it stops. -/
def brokenNumber (start offset : Nat) (next : List UInt8) : Token :=
  match next with
  | [] => ⟨.brokenWord ⟨.endInValue, offset⟩ ⟨.badNumber, offset⟩, start, offset⟩
  | _ => ⟨.brokenWord ⟨.badNumber, offset + 1⟩ ⟨.badNumber, offset + 1⟩, start, offset⟩

def exponentAfter (n : Numeral) (start offset : Nat) (rest : List UInt8) : Token :=
  let (down, offset, rest) :=
    match rest with
    | byte :: after =>
        match ascii byte with
        | '+' => (false, offset + 1, after)
        | '-' => (true, offset + 1, after)
        | _ => (false, offset, rest)
    | [] => (false, offset, rest)
  let digits := rest.takeWhile isDigit
  if digits = [] then brokenNumber start offset rest
  else numberToken { n with exponent := some (down, digits) } start (offset + digits.length)

def marksExponent : List UInt8 → Bool
  | byte :: _ => ascii byte = 'e' || ascii byte = 'E'
  | [] => false

def afterWhole (n : Numeral) (start offset : Nat) (rest : List UInt8) : Token :=
  match rest with
  | byte :: after =>
      if ascii byte = '.' then
        let digits := after.takeWhile isDigit
        let left := after.dropWhile isDigit
        let stop := offset + 1 + digits.length
        let n := { n with fraction := digits }
        if digits = [] then brokenNumber start stop left
        else if marksExponent left then exponentAfter n start (stop + 1) (left.drop 1)
        else numberToken n start stop
      else if marksExponent rest then exponentAfter n start (offset + 1) after
      else numberToken n start offset
  | [] => numberToken n start offset

def numberAfter (negative : Bool) (start offset : Nat) (rest : List UInt8) : Token :=
  match rest with
  | [] => brokenNumber start offset rest
  | first :: after =>
      if ¬ isDigit first then brokenNumber start offset rest
      else if ascii first = '0' then
        match after with
        | second :: _ =>
            if isDigit second then brokenNumber start (offset + 1) after
            else afterWhole ⟨negative, [first], [], none⟩ start (offset + 1) after
        | [] => afterWhole ⟨negative, [first], [], none⟩ start (offset + 1) after
      else
        let digits := rest.takeWhile isDigit
        afterWhole ⟨negative, digits, [], none⟩ start (offset + digits.length)
          (rest.dropWhile isDigit)

/-! ### Documents -/

def first (byte : UInt8) (rest : List UInt8) (start : Nat) : Token :=
  let c := ascii byte
  match c with
  | '[' => ⟨.mark c, start, start + 1⟩
  | ']' => ⟨.mark c, start, start + 1⟩
  | '{' => ⟨.mark c, start, start + 1⟩
  | '}' => ⟨.mark c, start, start + 1⟩
  | ':' => ⟨.mark c, start, start + 1⟩
  | ',' => ⟨.mark c, start, start + 1⟩
  | 'n' => wordAfter .null start (start + 1) ['u', 'l', 'l'] rest
  | 't' => wordAfter (.flag true) start (start + 1) ['r', 'u', 'e'] rest
  | 'f' => wordAfter (.flag false) start (start + 1) ['a', 'l', 's', 'e'] rest
  | '"' => textAfter start rest
  | '-' => numberAfter true start (start + 1) rest
  | _ =>
      if c.isDigit then numberAfter false start start (byte :: rest)
      else ⟨.stray, start, start + 1⟩

/-- The tokens of what stands at `offset` and after, up to the first that is spelled badly. -/
def listFrom (offset : Nat) : List UInt8 → List Token
  | [] => []
  | byte :: rest =>
      if isSpace byte then listFrom (offset + 1) rest
      else
        let token := first byte rest offset
        if token.kind.isLast then [token]
        else token :: listFrom token.stop (rest.drop (token.stop - (offset + 1)))
termination_by bytes => bytes.length
decreasing_by all_goals grind

def list (document : List UInt8) : List Token :=
  listFrom 0 document

end Token

end OperatorConfig.Json
