import OperatorConfig.Yaml.Fault

/-!
# The characters of a YAML document

A document is UTF-8 without control characters. Line breaks are read alike: a carriage return, with or
without a line feed, and the next-line control stand for a line feed; the line and paragraph
separators break lines as well and keep their spelling.
-/

namespace OperatorConfig.Yaml

/-- How many bytes a character has that starts with the byte. -/
def octets (first : Nat) : Option Nat :=
  if first < 0x80 then some 1
  else if first < 0xC0 then none
  else if first < 0xE0 then some 2
  else if first < 0xF0 then some 3
  else if first < 0xF8 then some 4
  else none

def isAllowed (code : Nat) : Bool :=
  code = 0x09 || code = 0x0A || code = 0x0D || (0x20 ≤ code && code ≤ 0x7E) || code = 0x85
    || (0xA0 ≤ code && code ≤ 0xD7FF) || (0xE000 ≤ code && code ≤ 0xFFFD) || 0x10000 ≤ code

/-- The character with the code point, which starts at the offset and takes `width` bytes. -/
def characterOf (code width offset : Nat) : Except Fault Char :=
  let least := if width = 1 then 0 else if width = 2 then 0x80 else if width = 3 then 0x800 else 0x10000
  if code < least then .error (.encoding .overlong offset)
  else if (0xD800 ≤ code ∧ code ≤ 0xDFFF) ∨ 0x10FFFF < code then .error (.encoding .notUnicode offset)
  else if isAllowed code then .ok (Char.ofNat code)
  else .error (.encoding .control offset)

/-- A character of which some bytes are still to come. -/
structure Unfinished where
  start : Nat
  width : Nat
  left : Nat
  code : Nat

/-- Reads the bytes from an offset on, after the characters `read`, last first. -/
def charactersFrom (offset : Nat) (unfinished : Option Unfinished) (read : List Char) :
    List UInt8 → Except Fault (List Char)
  | [] =>
      match unfinished with
      | some character => .error (.encoding .incomplete character.start)
      | none => .ok read.reverse
  | byte :: rest =>
      let value := byte.toNat
      match unfinished with
      | some character =>
          if value < 0x80 ∨ 0xC0 ≤ value then
            if rest.length + 1 < character.left then
              .error (.encoding .incomplete character.start)
            else .error (.encoding .trailingOctet offset)
          else
            let code := character.code * 0x40 + value % 0x40
            if character.left = 1 then
              match characterOf code character.width character.start with
              | .ok c => charactersFrom (offset + 1) none (c :: read) rest
              | .error fault => .error fault
            else
              charactersFrom (offset + 1)
                (some { character with left := character.left - 1, code }) read rest
      | none =>
          match octets value with
          | none => .error (.encoding .leadingOctet offset)
          | some 1 =>
              match characterOf value 1 offset with
              | .ok c => charactersFrom (offset + 1) none (c :: read) rest
              | .error fault => .error fault
          | some width =>
              let code := if width = 2 then value % 0x20 else if width = 3 then value % 0x10 else value % 8
              charactersFrom (offset + 1) (some ⟨offset, width, width - 1, code⟩) read rest

/-- Reads every line break but the separators as a line feed. -/
def unifyBreaks : List Char → List Char
  | [] => []
  | '\r' :: '\n' :: rest => '\n' :: unifyBreaks rest
  | c :: rest => (if c = '\r' ∨ c = Char.ofNat 0x85 then '\n' else c) :: unifyBreaks rest

def characters (document : List UInt8) : Except Fault (List Char) :=
  (charactersFrom 0 none [] document).map unifyBreaks

/-- The mark that may open a document to tell how it is encoded. -/
def byteOrderMark : Char := Char.ofNat 0xFEFF

/-! ### Classes -/

def isBlank (c : Char) : Bool := c = ' ' || c = '\t'

def isBreak (c : Char) : Bool := c = '\n' || c = Char.ofNat 0x2028 || c = Char.ofNat 0x2029

def isNameCharacter (c : Char) : Bool := c.isAlphanum || c = '_' || c = '-'

def blankNext : List Char → Bool
  | [] => true
  | c :: _ => isBlank c || isBreak c

def lineEndNext : List Char → Bool
  | [] => true
  | c :: _ => isBreak c

def documentMarkNext : List Char → Bool
  | '-' :: '-' :: '-' :: rest => blankNext rest
  | '.' :: '.' :: '.' :: rest => blankNext rest
  | _ => false

/-! ### Places -/

def Mark.after (mark : Mark) (c : Char) : Mark :=
  if isBreak c then ⟨mark.line + 1, 0⟩ else ⟨mark.line, mark.column + 1⟩

/-- The place after so many characters of one line. -/
def Mark.forward (mark : Mark) (count : Nat) : Mark := ⟨mark.line, mark.column + count⟩

/-- What is left of a document, and where it begins. -/
structure Cursor where
  rest : List Char
  mark : Mark := {}
deriving Inhabited

namespace Cursor

def next (cursor : Cursor) : Cursor :=
  match cursor.rest with
  | [] => cursor
  | c :: rest => ⟨rest, cursor.mark.after c⟩

/-- The characters of a class that come next, of which none is a line break, and what is left. -/
def span (cursor : Cursor) (among : Char → Bool) : List Char × Cursor :=
  let (taken, rest) := cursor.rest.span among
  (taken, ⟨rest, cursor.mark.forward taken.length⟩)

def skipBlanks (cursor : Cursor) : Cursor := (cursor.span isBlank).2

def skipComment (cursor : Cursor) : Cursor :=
  if cursor.rest.head? = some '#' then (cursor.span fun c => !isBreak c).2 else cursor

end Cursor

end OperatorConfig.Yaml
