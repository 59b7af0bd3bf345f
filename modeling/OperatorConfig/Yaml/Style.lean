import OperatorConfig.Yaml.Resolution

/-!
# How scalars are written

A text is written plain where it then reads back as the same text. One that would mean something else
without quotes (a number, a flag, nothing) or would not stand for itself (blanks at an end, marks with a
meaning) is put between single quotes; one with characters that must be escaped, between double quotes;
and one with line feeds is a block, if its lines allow that.
-/

namespace OperatorConfig.Yaml

/-- How a scalar is written. -/
inductive Style where
  | plain
  | single
  | double
  | literal
deriving DecidableEq

namespace Style

def isBreak (c : Char) : Bool :=
  c = '\n' || c = '\r' || c.toNat = 0x85 || c.toNat = 0x2028 || c.toNat = 0x2029

/-- Whether a character may stand in a document as it is. -/
def isPrintable (c : Char) : Bool :=
  c = '\n' || (0x20 ≤ c.toNat && c.toNat ≤ 0x7E) || (0xA0 ≤ c.toNat && c.toNat ≤ 0xD7FF)
    || (0xE000 ≤ c.toNat && c.toNat ≤ 0xFFFD && c.toNat ≠ 0xFEFF) || 0x10000 ≤ c.toNat

/-- Whether a character separates words. -/
def isGap (c : Char) : Bool := c = ' ' || c = '\t' || isBreak c

def gapFollows : List Char → Bool
  | [] => true
  | c :: _ => isGap c

/-- The marks that mean something at the beginning of a scalar. -/
def isMark (c : Char) : Bool :=
  c.toNat = 0x60 || c ∈ ['#', ',', '[', ']', '\x7b', '\x7d', '&', '*', '!', '|', '>', '\'', '"', '%', '@']

/-- Whether a text begins like something other than a plain scalar. -/
def beginsMarked : List Char → Bool
  | '-' :: '-' :: '-' :: _ => true
  | '.' :: '.' :: '.' :: _ => true
  | c :: rest => isMark c || ((c = '?' || c = ':' || c = '-') && gapFollows rest)
  | [] => false

/-- Whether a colon before a gap or a number sign behind one follows; `gap` tells whether a gap came
last. -/
def holdsMark (gap : Bool) : List Char → Bool
  | [] => false
  | c :: rest => (c = ':' && gapFollows rest) || (c = '#' && gap) || holdsMark (isGap c) rest

def breakThenSpace : List Char → Bool
  | a :: b :: rest => (isBreak a && b = ' ') || breakThenSpace (b :: rest)
  | _ => false

def spaceThenBreak : List Char → Bool
  | a :: b :: rest => (a = ' ' && isBreak b) || spaceThenBreak (b :: rest)
  | _ => false

/-- Whether a text has a space or a break at an end. -/
def isPadded (s : List Char) : Bool :=
  let atEnd : Option Char → Bool := fun c => c.any fun c => c = ' ' || isBreak c
  atEnd s.head? || atEnd s.getLast?

/-- Whether a text may be a plain scalar. -/
def allowsPlain (s : List Char) : Bool :=
  s.all (fun c => isPrintable c && !isBreak c) && !isPadded s && !beginsMarked s
    && !holdsMark true s

def allowsSingle (s : List Char) : Bool :=
  s.all isPrintable && !breakThenSpace s && !spaceThenBreak s

def allowsLiteral (s : List Char) : Bool :=
  s.all isPrintable && !spaceThenBreak s && s.getLast? ≠ some ' '

/-- Whether a text without quotes means that text. -/
def meansItself (s : String) : Bool :=
  match Meaning.ofPlain s with
  | .text _ => !Meaning.hasLeadingZero s.toList
  | _ => false

def ofText (s : String) : Style :=
  let cs := s.toList
  if cs.contains '\n' then if allowsLiteral cs then .literal else .double
  else if meansItself s && allowsPlain cs then .plain
  else if allowsSingle cs then .single
  else .double

def margin (width : Nat) : String := String.ofList (List.replicate width ' ')

/-- A text between single quotes, whose lines have a margin; `broken` tells whether a line has just
ended. -/
def singleBody (width : Nat) (broken : Bool) : List Char → String
  | [] => if broken then margin width else ""
  | c :: rest =>
      if isBreak c then
        (if c = '\n' && !broken then "\n" else "") ++ c.toString ++ singleBody width true rest
      else
        (if broken then margin width else "") ++ (if c = '\'' then "''" else c.toString)
          ++ singleBody width false rest

def hexDigits (count n : Nat) : String :=
  String.ofList ((List.range count).reverse.map fun place =>
    (Nat.digitChar (n / Nat.pow 16 place % 16)).toUpper)

def escaped (c : Char) : String :=
  match c.toNat with
  | 0x00 => "\\0"
  | 0x07 => "\\a"
  | 0x08 => "\\b"
  | 0x09 => "\\t"
  | 0x0A => "\\n"
  | 0x0B => "\\v"
  | 0x0C => "\\f"
  | 0x0D => "\\r"
  | 0x1B => "\\e"
  | 0x22 => "\\\""
  | 0x5C => "\\\\"
  | 0x85 => "\\N"
  | 0x2028 => "\\L"
  | 0x2029 => "\\P"
  | n =>
      if isPrintable c then c.toString
      else if n ≤ 0xFF then "\\x" ++ hexDigits 2 n
      else if n ≤ 0xFFFF then "\\u" ++ hexDigits 4 n
      else "\\U" ++ hexDigits 8 n

/-- What the head of a block says about the spaces before its first line and the breaks behind its
last. -/
def literalHints (s : List Char) : String :=
  (if s.head?.any (fun c => c = ' ' || isBreak c) then "2" else "")
    ++ match s.reverse with
      | [] => "-"
      | [last] => if isBreak last then "+" else "-"
      | last :: before :: _ =>
          if isBreak last then if isBreak before then "+" else ""
          else "-"

/-- The lines of a block with their margin; `broken` tells whether a line has just ended. -/
def literalBody (width : Nat) (broken : Bool) : List Char → String
  | [] => ""
  | c :: rest =>
      if isBreak c then c.toString ++ literalBody width true rest
      else (if broken then margin width else "") ++ c.toString ++ literalBody width false rest

/-- A text in a style, whose further lines have a margin. -/
def write (width : Nat) (s : String) : Style → String
  | .plain => s
  | .single => "'" ++ singleBody width false s.toList ++ "'"
  | .double => "\"" ++ s.toList.foldl (fun shown c => shown ++ escaped c) "" ++ "\""
  | .literal => "|" ++ literalHints s.toList ++ "\n" ++ literalBody width true s.toList

end Style

end OperatorConfig.Yaml
