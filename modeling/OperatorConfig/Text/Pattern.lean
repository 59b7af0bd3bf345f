import OperatorConfig.Text.Digit

/-!
# Patterns with groups

A pattern is matched part by part, each part behind the one before. A part can often match in several
ways: a repetition takes as many characters as it can and gives them back one at a time, and an optional
part is left out last. The first way in this order that lets all the rest match is the match, and the
groups are what it has taken for some of the parts.
-/

namespace OperatorConfig.Text

inductive CharClass where
  | exactly (c : Char)
  /-- Any character but a newline. -/
  | inLine
  /-- The decimal digits of every script. -/
  | digit

def CharClass.holds : CharClass → Char → Bool
  | .exactly expected, c => c = expected
  | .inLine, c => c ≠ '\n'
  | .digit, c => isDecimalDigit c

inductive Pattern where
  | start
  | one (chars : CharClass)
  | many (chars : CharClass)
  | optional (part : Pattern)
  | group (number : Nat) (part : Pattern)
  | followedBy (first second : Pattern)

/-- How far a match has come: over how many characters, before which others, and with which groups, the
last one first. -/
structure Cursor where
  position : Nat
  rest : List Char
  groups : List (Nat × List Char) := []

namespace Cursor

/-- Over the next character, if it is of the class. -/
def over? (cursor : Cursor) (chars : CharClass) : Option Cursor :=
  match cursor.rest with
  | c :: rest =>
      if chars.holds c then some { cursor with position := cursor.position + 1, rest } else none
  | [] => none

/-- Over any number of characters of the class, the most first. -/
def overMany (chars : CharClass) (position : Nat) (groups : List (Nat × List Char)) :
    List Char → List Cursor
  | [] => [⟨position, [], groups⟩]
  | c :: rest =>
      if chars.holds c then
        overMany chars (position + 1) groups rest ++ [⟨position, c :: rest, groups⟩]
      else [⟨position, c :: rest, groups⟩]

/-- A later cursor, with the characters up to it as a group. -/
def capture (cursor : Cursor) (number : Nat) (after : Cursor) : Cursor :=
  let taken := cursor.rest.take (after.position - cursor.position)
  { after with groups := (number, taken) :: after.groups }

end Cursor

namespace Pattern

instance : Append Pattern := ⟨followedBy⟩

/-- A character and any number of others. -/
def oneOrMore (chars : CharClass) : Pattern := one chars ++ many chars

/-- The ways in which a pattern matches from a cursor on, the preferred one first. -/
def ways : Pattern → Cursor → List Cursor
  | start, cursor => if cursor.position = 0 then [cursor] else []
  | one chars, cursor => (cursor.over? chars).toList
  | many chars, cursor => Cursor.overMany chars cursor.position cursor.groups cursor.rest
  | optional part, cursor => part.ways cursor ++ [cursor]
  | group number part, cursor => (part.ways cursor).map (cursor.capture number)
  | followedBy first second, cursor => (first.ways cursor).flatMap second.ways

/-- The match that begins first, from a position of the text on. -/
def find? (pattern : Pattern) (position : Nat) : List Char → Option Cursor
  | [] => (pattern.ways { position, rest := [] }).head?
  | c :: rest =>
      (pattern.ways { position, rest := c :: rest }).head?.or (pattern.find? (position + 1) rest)

/-- The groups of the match in a text. -/
def captures? (pattern : Pattern) (text : List Char) : Option (List (Nat × List Char)) :=
  (pattern.find? 0 text).map Cursor.groups

end Pattern

end OperatorConfig.Text
