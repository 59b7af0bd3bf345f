import OperatorConfig.Yaml.Character

/-!
# Tokens of a YAML document

The indicators, names, tags and scalars of a document, with the starts and ends of block collections,
which are written as indentation. A document that breaks off has the tokens before the fault.
-/

namespace OperatorConfig.Yaml

inductive Token.Kind where
  | streamEnd
  | version (major minor : Nat)
  | handle (name : String) (meaning : List UInt8)
  | documentStart
  | documentEnd
  | blockSequence
  | blockMapping
  | blockEnd
  | flowSequence
  | flowSequenceEnd
  | flowMapping
  | flowMappingEnd
  | entry
  | comma
  | key
  | value
  | alias (name : String)
  | anchor (name : String)
  /-- A tag as a handle and what follows it; the handle may be empty. -/
  | tag (handle : String) (suffix : List UInt8)
  | scalar (text : String) (plain : Bool)
deriving DecidableEq, Inhabited

structure Token where
  kind : Token.Kind
  start : Mark
deriving Inhabited

/-- The tokens of a document up to the fault, if there is one. -/
structure Tokens where
  tokens : List Token
  fault : Option Fault

end OperatorConfig.Yaml
