/-!
# Tables of characters

A property of characters is a table of runs of code points. A run may have a target: code points that
its characters are replaced by, which move along with the character where the run says so, or a number
that stands for a class. Tables are written as text, a word a run, with hexadecimal numbers: `a=t` for
one character, `a-b=t` for consecutive ones with consecutive targets, `a*b=t` for every second one with
the targets in step, and `a~b=t` for consecutive ones with one target. A target of several code points
is written with plus signs, and a run without a target has none.
-/

namespace OperatorConfig.Text

structure CodeRun where
  first : Nat
  last : Nat
  step : Nat := 1
  /-- Whether the target moves along. -/
  moves : Bool := true
  target : List Nat := []
deriving DecidableEq, Inhabited

namespace CodeRun

def digit (c : Char) : Nat :=
  if c.isDigit then c.toNat - '0'.toNat else c.toNat - 'a'.toNat + 10

def number (digits : List Char) : Nat :=
  digits.foldl (fun n c => 16 * n + digit c) 0

/-- The target of a run, with its numbers between plus signs; `held` are the digits of the first. -/
def targetOf (held : List Char) : List Char → List Nat
  | [] => [number held.reverse]
  | '+' :: rest => number held.reverse :: targetOf [] rest
  | c :: rest => targetOf (c :: held) rest

def ofWord (word : List Char) : CodeRun :=
  let (codes, rest) := word.span (· ≠ '=')
  let target :=
    match rest with
    | _ :: digits => targetOf [] digits
    | [] => []
  let (first, rest) := codes.span fun c => c.isDigit || ('a' ≤ c && c ≤ 'f')
  match rest with
  | '*' :: last => ⟨number first, number last, 2, true, target⟩
  | '~' :: last => ⟨number first, number last, 1, false, target⟩
  | _ :: last => ⟨number first, number last, 1, true, target⟩
  | [] => ⟨number first, number first, 1, true, target⟩

/-- The words of a line; `held` is the beginning of the first, in reverse. -/
def words (held : List Char) : List Char → List (List Char)
  | [] => if held = [] then [] else [held.reverse]
  | ' ' :: rest => if held = [] then words [] rest else held.reverse :: words [] rest
  | c :: rest => words (c :: held) rest

def table (lines : List String) : Array CodeRun :=
  (lines.flatMap fun line => (words [] line.toList).map ofWord).toArray

def holds (run : CodeRun) (c : Char) : Bool :=
  run.first ≤ c.toNat && c.toNat ≤ run.last && (c.toNat - run.first) % run.step = 0

def find? (runs : Array CodeRun) (c : Char) : Option CodeRun :=
  runs.find? (·.holds c)

/-- What a character of a run is replaced by. -/
def image (run : CodeRun) (c : Char) : List Char :=
  match run.target with
  | [target] =>
      [Char.ofNat (if run.moves then target + (c.toNat - run.first) else target)]
  | target => target.map Char.ofNat

end CodeRun

end OperatorConfig.Text
