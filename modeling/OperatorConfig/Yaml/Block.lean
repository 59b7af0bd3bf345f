import OperatorConfig.Yaml.Character

/-!
# Block scalars

The lines behind a bar or an angle. A header may give their indentation and what becomes of the line
breaks at the end: one stays, none stays, or all stay. Behind an angle a line break between two lines
that do not begin with a blank is folded.
-/

namespace OperatorConfig.Yaml

/-- What becomes of the line breaks at the end. -/
inductive Chomping where
  | strip
  | clip
  | keep
deriving DecidableEq

structure BlockHeader where
  chomping : Chomping := .clip
  /-- How far the lines are indented against the block around them. -/
  increment : Option Nat := none

namespace Block

def chomping? : Char → Option Chomping
  | '+' => some .keep
  | '-' => some .strip
  | _ => none

def readChomping (cursor : Cursor) : Option Chomping × Cursor :=
  match cursor.rest.head?.bind chomping? with
  | some chomping => (some chomping, cursor.next)
  | none => (none, cursor)

def readIncrement (start : Mark) (cursor : Cursor) : Except Fault (Option Nat × Cursor) :=
  match cursor.rest.head? with
  | some c =>
      if c = '0' then .error (.grammar .zeroIndentation cursor.mark (some (.blockScalar, start)))
      else if c.isDigit then .ok (some (c.toNat - 48), cursor.next)
      else .ok (none, cursor)
  | none => .ok (none, cursor)

/-- Reads the header, whose two indicators may stand in either order, and its line. -/
def readHeader (start : Mark) (cursor : Cursor) : Except Fault (BlockHeader × Cursor) := do
  let (before, cursor) := readChomping cursor
  let (increment, cursor) ← readIncrement start cursor
  let (after, cursor) :=
    if before.isNone ∧ increment.isSome then readChomping cursor else (none, cursor)
  let cursor := cursor.skipBlanks.skipComment
  if lineEndNext cursor.rest then
    return (⟨(before.orElse fun _ => after).getD .clip, increment⟩, cursor.next)
  else throw (.grammar .noLineEnd cursor.mark (some (.blockScalar, start)))

/-- The line breaks before a line with text, last first, and the deepest indentation seen. -/
structure Spacing where
  breaks : List Char
  deepest : Nat
  rest : Cursor

/-- Passes indentation, up to `indent` where that is known, and empty lines. -/
def spacingFrom (start : Mark) (indent : Option Nat) :
    List Char → Nat → List Char → Mark → Except Fault Spacing
  | breaks, deepest, [], mark => .ok ⟨breaks, max deepest mark.column, ⟨[], mark⟩⟩
  | breaks, deepest, c :: rest, mark =>
      let within := indent.all fun indent => mark.column < indent
      if within && c = ' ' then spacingFrom start indent breaks deepest rest (mark.after c)
      else if within && c = '\t' then
        .error (.grammar .tabForIndentation mark (some (.blockScalar, start)))
      else if isBreak c then
        spacingFrom start indent (c :: breaks) (max deepest mark.column) rest (mark.after c)
      else .ok ⟨breaks, max deepest mark.column, ⟨c :: rest, mark⟩⟩

/-- The text read so far and the line breaks behind it. -/
structure Lines where
  /-- The text, last character first. -/
  text : List Char := []
  /-- The break at the end of the last line. -/
  ending : Option Char := none
  /-- The breaks of the empty lines behind it, last first. -/
  empty : List Char
  /-- Whether the last line began with a blank. -/
  blank : Bool := false

/-- What stands between the last line and a next one, last character first. -/
def Lines.joint (literal : Bool) (lines : Lines) (blank : Bool) : List Char :=
  if !literal && lines.ending = some '\n' && !lines.blank && !blank then
    if lines.empty.isEmpty then [' '] else lines.empty
  else lines.empty ++ lines.ending.toList

/-- Reads the lines that are indented by `indent`; there are at most `count`. -/
def linesFrom (literal : Bool) (start : Mark) (indent : Nat) :
    Nat → Lines → Cursor → Except Fault (Lines × Cursor)
  | 0, lines, cursor => .ok (lines, cursor)
  | count + 1, lines, cursor =>
      match cursor.rest with
      | [] => .ok (lines, cursor)
      | c :: _ =>
          if cursor.mark.column ≠ indent then .ok (lines, cursor)
          else do
            let blank := isBlank c
            let (line, cursor) := cursor.span fun c => !isBreak c
            let text := line.reverse ++ (lines.joint literal blank ++ lines.text)
            let ending := cursor.rest.head?
            let spacing ← spacingFrom start (some indent) [] 0 cursor.next.rest cursor.next.mark
            linesFrom literal start indent count ⟨text, ending, spacing.breaks, blank⟩ spacing.rest

/-- The whole text, given what becomes of the end. -/
def Lines.chomped (chomping : Chomping) (lines : Lines) : String :=
  let tail :=
    match chomping with
    | .strip => []
    | .clip => lines.ending.toList
    | .keep => lines.empty ++ lines.ending.toList
  String.ofList (tail ++ lines.text).reverse

end Block

/-- Reads a block scalar, of which the bar or angle comes next, in a block that is indented by
`around`. -/
def Cursor.block (literal : Bool) (around : Option Nat) (cursor : Cursor) :
    Except Fault (String × Cursor) := do
  let start := cursor.mark
  let (header, cursor) ← Block.readHeader start cursor.next
  let known := header.increment.map fun increment => around.getD 0 + increment
  let spacing ← Block.spacingFrom start known [] 0 cursor.rest cursor.mark
  let least := (around.map (· + 1)).getD 1
  let indent := known.getD (max spacing.deepest least)
  let (lines, cursor) ←
    Block.linesFrom literal start indent (spacing.rest.rest.length + 1) { empty := spacing.breaks }
      spacing.rest
  return (lines.chomped header.chomping, cursor)

end OperatorConfig.Yaml
