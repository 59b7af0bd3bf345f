import OperatorConfig.Yaml.Character

/-!
# Folded lines

Blank space inside a plain or quoted scalar. On one line it is kept. Where it spans lines, the blanks go,
a single line feed becomes a space, and of several the first goes; a line or paragraph separator stays.
-/

namespace OperatorConfig.Yaml

/-- The blank space between two words. -/
inductive Gap where
  /-- Blanks on one line, last first. -/
  | line (blanks : List Char)
  /-- Line breaks: the first, unless it was escaped, and the others, last first. -/
  | lines (first : Option Char) (others : List Char)

namespace Gap

/-- Between two characters of one word. -/
def none : Gap := .line []

def isSome : Gap → Bool
  | .line blanks => !blanks.isEmpty
  | .lines .. => true

def hasBreak : Gap → Bool
  | .line _ => false
  | .lines .. => true

/-- The gap with a blank or line break more. -/
def add (gap : Gap) (c : Char) : Gap :=
  if isBreak c then
    match gap with
    | .line _ => .lines (some c) []
    | .lines first others => .lines first (c :: others)
  else
    match gap with
    | .line blanks => .line (c :: blanks)
    | spread => spread

/-- What a gap contributes to the text, last character first. -/
def folded : Gap → List Char
  | .line blanks => blanks
  | .lines (some '\n') [] => [' ']
  | .lines (some '\n') others => others
  | .lines (some c) others => others ++ [c]
  | .lines .none others => others

end Gap

end OperatorConfig.Yaml
