import OperatorConfig.Yaml.Folding

/-!
# Quoted scalars

Between single quotes every character stands for itself, and a quote is written twice. Between double
quotes a backslash begins an escape; one before a line break joins the lines.
-/

namespace OperatorConfig.Yaml

/-- The character meant by a letter behind a backslash. -/
def escapedCharacter : Char → Option Char
  | '0' => some (Char.ofNat 0)
  | 'a' => some (Char.ofNat 0x07)
  | 'b' => some (Char.ofNat 0x08)
  | 't' => some '\t'
  | '\t' => some '\t'
  | 'n' => some '\n'
  | 'v' => some (Char.ofNat 0x0B)
  | 'f' => some (Char.ofNat 0x0C)
  | 'r' => some '\r'
  | 'e' => some (Char.ofNat 0x1B)
  | ' ' => some ' '
  | '"' => some '"'
  | '/' => some '/'
  | '\\' => some '\\'
  | 'N' => some (Char.ofNat 0x85)
  | '_' => some (Char.ofNat 0xA0)
  | 'L' => some (Char.ofNat 0x2028)
  | 'P' => some (Char.ofNat 0x2029)
  | _ => none

/-- How many hexadecimal digits follow a letter behind a backslash. -/
def escapeLength : Char → Option Nat
  | 'x' => some 2
  | 'u' => some 4
  | 'U' => some 8
  | _ => none

def hexadecimal? (c : Char) : Option Nat :=
  if '0' ≤ c ∧ c ≤ '9' then some (c.toNat - 48)
  else if 'a' ≤ c ∧ c ≤ 'f' then some (c.toNat - 87)
  else if 'A' ≤ c ∧ c ≤ 'F' then some (c.toNat - 55)
  else none

structure Digits where
  start : Mark
  left : Nat
  code : Nat

/-- Goes on with a quoted scalar that began at `start`; `text` is what was read, last character
first. -/
def quotedFrom (single : Bool) (start : Mark) :
    Option Digits → Gap → List Char → List Char → Mark → Except Fault (String × Cursor)
  | some digits, _, _, [], _ =>
      .error (.grammar .noHexadecimal digits.start (some (.escape, start)))
  | none, _, _, [], mark => .error (.grammar .unclosed mark (some (.quotedScalar, start)))
  | some digits, gap, text, c :: rest, mark =>
      match hexadecimal? c with
      | none => .error (.grammar .noHexadecimal digits.start (some (.escape, start)))
      | some value =>
          let code := digits.code * 16 + value
          if digits.left ≠ 1 then
            quotedFrom single start (some { digits with left := digits.left - 1, code }) gap text
              rest (mark.after c)
          else if (0xD800 ≤ code ∧ code ≤ 0xDFFF) ∨ 0x10FFFF < code then
            .error (.grammar .badCodePoint digits.start (some (.escape, start)))
          else quotedFrom single start none .none (Char.ofNat code :: text) rest (mark.after c)
  | none, gap, text, c :: rest, mark =>
      if isBlank c || isBreak c then
        quotedFrom single start none (gap.add c) text rest (mark.after c)
      else if mark.column = 0 && documentMarkNext (c :: rest) then
        .error (.grammar .documentMark mark (some (.quotedScalar, start)))
      else
        let text := gap.folded ++ text
        let mark' := mark.after c
        if single then
          match c, rest with
          | '\'', '\'' :: rest => quotedFrom single start none .none ('\'' :: text) rest (mark'.forward 1)
          | '\'', rest => .ok (String.ofList text.reverse, ⟨rest, mark'⟩)
          | c, rest => quotedFrom single start none .none (c :: text) rest mark'
        else
          match c, rest with
          | '"', rest => .ok (String.ofList text.reverse, ⟨rest, mark'⟩)
          | '\\', d :: rest =>
              if isBreak d then
                quotedFrom single start none (.lines none []) text rest (mark'.after d)
              else
                match escapedCharacter d, escapeLength d with
                | some meant, _ =>
                    quotedFrom single start none .none (meant :: text) rest (mark'.after d)
                | none, some length =>
                    let digits := mark'.after d
                    quotedFrom single start (some ⟨digits, length, 0⟩) .none text rest digits
                | none, none => .error (.grammar .unknownEscape mark (some (.escape, start)))
          | '\\', [] => .error (.grammar .unknownEscape mark (some (.escape, start)))
          | c, rest => quotedFrom single start none .none (c :: text) rest mark'

def Cursor.quotation (single : Bool) (cursor : Cursor) : Except Fault (String × Cursor) :=
  quotedFrom single cursor.mark none .none [] cursor.next.rest cursor.next.mark

end OperatorConfig.Yaml
