import OperatorConfig.Json.Basic

/-!
# Records of the log

A record has a level, the part of the program from which it comes, a message and named fields. A filter
lets records pass by their level, for every part or for one part and those below it.
-/

namespace OperatorConfig.Log

/-- How much a record matters. -/
inductive Level where
  | error
  | warn
  | info
  | debug
  | trace
deriving DecidableEq

namespace Level

/-- The number of levels that matter more. -/
def rank : Level → Nat
  | .error => 1
  | .warn => 2
  | .info => 3
  | .debug => 4
  | .trace => 5

def name : Level → String
  | .error => "ERROR"
  | .warn => "WARN"
  | .info => "INFO"
  | .debug => "DEBUG"
  | .trace => "TRACE"

end Level

structure Record where
  level : Level
  origin : String
  message : String
  fields : List (String × Json) := []

/-- A rule of a filter: for an origin and those below it, the greatest rank that passes. -/
structure Directive where
  /-- Empty for every origin. -/
  origin : String
  greatest : Nat
deriving DecidableEq

/-- Rules, of which the one with the longest origin decides. -/
abbrev Filter := List Directive

namespace Filter

/-- The rank that a name or number of a level stands for. -/
def rank? (text : String) : Option Nat :=
  match String.ofList (text.toList.map Char.toLower) with
  | "off" => some 0
  | "0" => some 0
  | "error" => some 1
  | "1" => some 1
  | "warn" => some 2
  | "2" => some 2
  | "info" => some 3
  | "3" => some 3
  | "debug" => some 4
  | "4" => some 4
  | "trace" => some 5
  | "5" => some 5
  | _ => none

/-- One rule: a level, an origin, or an origin with a level. -/
def directive? (text : String) : Option Directive :=
  match text.splitOn "=" with
  | [one] =>
      match rank? one with
      | some greatest => some ⟨"", greatest⟩
      | none => if one = "" then none else some ⟨one, 5⟩
  | [origin, level] => (rank? level).map fun greatest => ⟨origin, greatest⟩
  | _ => none

/-- A filter as it is written, with commas between the rules; without a rule records up to `info` pass. -/
def ofText (text : String) : Filter :=
  match (text.splitOn ",").filterMap directive? with
  | [] => [⟨"", 3⟩]
  | directives => directives

def isAbout (directive : Directive) (origin : String) : Bool :=
  directive.origin.toList.isPrefixOf origin.toList

def ruleFor (filter : Filter) (origin : String) : Option Directive :=
  filter.foldl
    (fun best directive =>
      if isAbout directive origin then
        match best with
        | some held =>
            if held.origin.length ≤ directive.origin.length then some directive else some held
        | none => some directive
      else best)
    none

def passes (filter : Filter) (record : Record) : Bool :=
  match ruleFor filter record.origin with
  | some directive => record.level.rank ≤ directive.greatest
  | none => false

end Filter

/-- Whether log lines are for people or for programs. -/
inductive Format where
  | text
  | json
deriving DecidableEq

namespace Format

def name : Format → String
  | .text => "Text"
  | .json => "Json"

/-- The format of a name in any case, or a complaint. -/
def ofText (s : String) : Except String Format :=
  let lower := String.ofList (s.toList.map Char.toLower)
  if lower = "text" then .ok .text
  else if lower = "json" then .ok .json
  else .error s!"unknown log format: {lower} (expected text or json)"

end Format

end OperatorConfig.Log
