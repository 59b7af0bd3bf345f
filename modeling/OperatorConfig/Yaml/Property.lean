import OperatorConfig.Text.Utf8
import OperatorConfig.Yaml.Quotation
import OperatorConfig.Yaml.Token

/-!
# Directives, anchors and tags

What can be said about a document and about a node. A tag is written in full between angles, or as a
handle and a suffix; octets may be written as escapes, and a tag ends at an octet that is zero.
-/

namespace OperatorConfig.Yaml

namespace Property

/-- A character of a tag; those of the last line only where a tag is written in full. -/
def isTagCharacter (full : Bool) (c : Char) : Bool :=
  isNameCharacter c || c ∈ [';', '/', '?', ':', '@', '&', '=', '+', '$', '.', '%', '!', '~', '*', '\'',
    '(', ')'] || full && c ∈ [',', '[', ']']

def octet? : List Char → Option Nat
  | '%' :: high :: low :: _ => do
      return (← hexadecimal? high) * 16 + (← hexadecimal? low)
  | _ => none

/-- The fault of a tag, or of the directive that began at `start`. -/
def tagFault {α : Type} (directive : Bool) (start place : Mark) (problem : Problem) : Except Fault α :=
  .error (.grammar problem place (some (if directive then .directiveUri else .tagUri, start)))

/-- Reads a tag's characters, last octet first; `left` octets of a character that is written in escapes
are still to come. Each step takes at least one of the `count` characters. -/
def uriFrom (full directive : Bool) (start : Mark) :
    Nat → Nat → List UInt8 → Cursor → Except Fault (List UInt8 × Cursor)
  | 0, _, read, cursor => .ok (read, cursor)
  | count + 1, 0, read, cursor =>
      match cursor.rest with
      | [] => .ok (read, cursor)
      | c :: rest =>
          if c = '%' then
            match octet? cursor.rest with
            | none => tagFault directive start cursor.mark .noEscapedOctet
            | some octet =>
                match octets octet with
                | none => tagFault directive start cursor.mark .badLeadingOctet
                | some width =>
                    uriFrom full directive start count (width - 1) (UInt8.ofNat octet :: read)
                      ⟨rest.drop 2, cursor.mark.forward 3⟩
          else if isTagCharacter full c then
            uriFrom full directive start count 0 (UInt8.ofNat c.toNat :: read) cursor.next
          else .ok (read, cursor)
  | count + 1, left + 1, read, cursor =>
      match octet? cursor.rest with
      | none => tagFault directive start cursor.mark .noEscapedOctet
      | some octet =>
          if octet < 0x80 ∨ 0xC0 ≤ octet then tagFault directive start cursor.mark .badTrailingOctet
          else
            uriFrom full directive start count left (UInt8.ofNat octet :: read)
              ⟨cursor.rest.drop 3, cursor.mark.forward 3⟩

/-- Reads the characters of a tag behind `before`, of which there must be some. -/
def uri (full directive : Bool) (start : Mark) (before : List Char) (cursor : Cursor) :
    Except Fault (List UInt8 × Cursor) := do
  let head := before.map fun c => UInt8.ofNat c.toNat
  let (read, cursor) ← uriFrom full directive start cursor.rest.length 0 [] cursor
  if before.isEmpty ∧ read.isEmpty then tagFault directive start cursor.mark .noUri
  else return ((head.drop 1 ++ read.reverse).takeWhile (· ≠ 0), cursor)

/-- Reads a handle: a name between two exclamation marks; without the second one it is a handle only
where it has no name. -/
def handle (directive : Bool) (start : Mark) (cursor : Cursor) :
    Except Fault (List Char × Cursor) :=
  if cursor.rest.head? ≠ some '!' then
    .error (.grammar .noBang cursor.mark (some (if directive then .handleStart else .tag, start)))
  else
    let (name, cursor) := cursor.next.span isNameCharacter
    if cursor.rest.head? = some '!' then .ok ('!' :: (name ++ ['!']), cursor.next)
    else if directive ∧ name ≠ [] then
      .error (.grammar .noBang cursor.mark (some (.handleEnd, start)))
    else .ok ('!' :: name, cursor)

def tagEnds (inFlow : Bool) (rest : List Char) : Bool :=
  blankNext rest || inFlow && rest.head? = some ','

def tag (inFlow : Bool) (cursor : Cursor) : Except Fault (Token × Cursor) := do
  let start := cursor.mark
  let (name, suffix, cursor) ←
    match cursor.rest with
    | '!' :: '<' :: rest => do
        let (suffix, cursor) ← uri true false start [] ⟨rest, start.forward 2⟩
        if cursor.rest.head? = some '>' then pure ([], suffix, cursor.next)
        else throw (.grammar .noAngle cursor.mark (some (.tag, start)))
    | _ => do
        let (name, cursor) ← handle false start cursor
        if 1 < name.length ∧ name.getLast? = some '!' then
          let (suffix, cursor) ← uri false false start [] cursor
          pure (name, suffix, cursor)
        else
          let (suffix, cursor) ← uri false false start name cursor
          if suffix.isEmpty then pure ([], [UInt8.ofNat '!'.toNat], cursor)
          else pure (['!'], suffix, cursor)
  if tagEnds inFlow cursor.rest then return (⟨.tag (String.ofList name) suffix, start⟩, cursor)
  else throw (.grammar .noSpaceOrBreak cursor.mark (some (.tag, start)))

def nameEnds : List Char → Bool
  | [] => true
  | c :: rest => blankNext (c :: rest) || c ∈ ['?', ':', ',', ']', '\x7d', '%', '@', Char.ofNat 0x60]

def anchor (isAlias : Bool) (cursor : Cursor) : Except Fault (Token × Cursor) :=
  let start := cursor.mark
  let (name, cursor) := cursor.next.span isNameCharacter
  if name ≠ [] ∧ nameEnds cursor.rest then
    let name := String.ofList name
    .ok (⟨if isAlias then .alias name else .anchor name, start⟩, cursor)
  else .error (.grammar .noName cursor.mark (some (if isAlias then .alias else .anchor, start)))

def versionNumber (start : Mark) (cursor : Cursor) : Except Fault (Nat × Cursor) :=
  let (digits, after) := cursor.span Char.isDigit
  if 9 < digits.length then
    .error (.grammar .longVersion (cursor.mark.forward 9) (some (.versionDirective, start)))
  else if digits = [] then
    .error (.grammar .noVersion cursor.mark (some (.versionDirective, start)))
  else .ok (digits.foldl (fun value digit => value * 10 + (digit.toNat - 48)) 0, after)

def directiveValue (start : Mark) (name : String) (cursor : Cursor) :
    Except Fault (Token.Kind × Cursor) := do
  if name = "YAML" then
    let (major, cursor) ← versionNumber start cursor.skipBlanks
    if cursor.rest.head? ≠ some '.' then
      throw (.grammar .noVersionPoint cursor.mark (some (.versionDirective, start)))
    let (minor, cursor) ← versionNumber start cursor.next
    return (.version major minor, cursor)
  else if name = "TAG" then
    let (name, cursor) ← handle true start cursor.skipBlanks
    if !(cursor.rest.head?.any isBlank) then
      throw (.grammar .noSpace cursor.mark (some (.tagDirective, start)))
    let (meaning, cursor) ← uri true true start [] cursor.skipBlanks
    if blankNext cursor.rest then return (.handle (String.ofList name) meaning, cursor)
    else throw (.grammar .noSpaceOrBreak cursor.mark (some (.tagDirective, start)))
  else throw (.grammar .unknownDirective cursor.mark (some (.directive, start)))

def directive (cursor : Cursor) : Except Fault (Token × Cursor) := do
  let start := cursor.mark
  let (name, cursor) := cursor.next.span isNameCharacter
  if name = [] then
    throw (.grammar .noDirectiveName cursor.mark (some (.directive, start)))
  if !blankNext cursor.rest then
    throw (.grammar .badDirectiveName cursor.mark (some (.directive, start)))
  let (kind, cursor) ← directiveValue start (String.ofList name) cursor
  let cursor := cursor.skipBlanks.skipComment
  if lineEndNext cursor.rest then return (⟨kind, start⟩, cursor.next)
  else throw (.grammar .noLineEnd cursor.mark (some (.directive, start)))

end Property

end OperatorConfig.Yaml
