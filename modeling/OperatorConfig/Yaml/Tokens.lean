import OperatorConfig.Yaml.Block
import OperatorConfig.Yaml.Plain
import OperatorConfig.Yaml.Property

/-!
# Reading the tokens of a YAML document

The reader goes through the characters once. Where a token may turn out to begin a key, its place is
kept until a colon shows that it does, and the marks of the key and of its mapping are put in before
it, or until the line ends. Tokens from such a place on are not settled, and a fault takes them along.
-/

namespace OperatorConfig.Yaml

/-- A place where a key may have begun. -/
structure PossibleKey where
  place : Mark
  /-- How many tokens stand before it. -/
  number : Nat
  /-- Whether nothing but a key may begin there. -/
  needed : Bool

/-- How far a document has been read. -/
structure Reader where
  rest : List Char
  mark : Mark := {}
  /-- The columns of the open block collections, the innermost first. -/
  columns : List Nat := []
  /-- Where a key may have begun in the innermost open collection. -/
  possible : Option PossibleKey := none
  /-- The same for the collections around each open flow collection, the innermost first. -/
  around : List (Option PossibleKey) := []
  keyAllowed : Bool := true
  /-- The tokens read, last first. -/
  tokens : List Token := []
  count : Nat := 0
  ended : Bool := false

namespace Reader

def start (text : List Char) : Reader := { rest := text }

def inFlow (reader : Reader) : Bool := !reader.around.isEmpty

def cursor (reader : Reader) : Cursor := ⟨reader.rest, reader.mark⟩

def goTo (reader : Reader) (cursor : Cursor) : Reader :=
  { reader with rest := cursor.rest, mark := cursor.mark }

def push (reader : Reader) (token : Token) : Reader :=
  { reader with tokens := token :: reader.tokens, count := reader.count + 1 }

/-- Adds a token after the first `number` ones. -/
def insert (reader : Reader) (number : Nat) (token : Token) : Reader :=
  let later := reader.count - number
  { reader with
    tokens := reader.tokens.take later ++ token :: reader.tokens.drop later
    count := reader.count + 1 }

def indicator (reader : Reader) (kind : Token.Kind) (width : Nat) : Reader :=
  (reader.push ⟨kind, reader.mark⟩).goTo ⟨reader.rest.drop width, reader.mark.forward width⟩

/-! ### Possible keys -/

/-- The fault of a place where only a key may begin and none does. -/
def noKeyAt {α : Type} (reader : Reader) (key : PossibleKey) : Except Fault α :=
  .error (.grammar .noColon reader.mark (some (.simpleKey, key.place)))

/-- Forgets a possible key that is too far back: a key is on one line and not longer than 1024
characters. -/
def fresh? (reader : Reader) : Option PossibleKey → Except Fault (Option PossibleKey)
  | none => .ok none
  | some key =>
      if key.place.line < reader.mark.line ∨ key.place.column + 1024 < reader.mark.column then
        if key.needed then reader.noKeyAt key else .ok none
      else .ok (some key)

def dropStale (reader : Reader) : Except Fault Reader := do
  let around ← reader.around.mapM reader.fresh?
  let possible ← reader.fresh? reader.possible
  return { reader with around, possible }

def dropKey (reader : Reader) : Except Fault Reader :=
  match reader.possible with
  | none => .ok reader
  | some key => if key.needed then reader.noKeyAt key else .ok { reader with possible := none }

def saveKey (reader : Reader) : Except Fault Reader :=
  if reader.keyAllowed then do
    let reader ← reader.dropKey
    let needed := !reader.inFlow && reader.columns.head? = some reader.mark.column
    return { reader with possible := some ⟨reader.mark, reader.count, needed⟩ }
  else .ok reader

/-- How many tokens no later character can change. -/
def settled (reader : Reader) : Nat :=
  (reader.possible :: reader.around).foldl
    (fun least key => (key.map fun key => min least key.number).getD least) reader.count

/-! ### Indentation -/

/-- Opens a block collection at a column that is deeper than the block around it; its token stands
after the first `number` ones. -/
def openBlock (reader : Reader) (column number : Nat) (token : Token) : Reader :=
  if reader.inFlow then reader
  else if reader.columns.head?.all (· < column) then
    { reader.insert number token with columns := column :: reader.columns }
  else reader

def closeBlocks (reader : Reader) (deeper : Nat → Bool) : Reader :=
  if reader.inFlow then reader
  else
    let closed := reader.columns.takeWhile deeper
    { reader with
      columns := reader.columns.drop closed.length
      tokens := closed.map (fun _ => ⟨.blockEnd, reader.mark⟩) ++ reader.tokens
      count := reader.count + closed.length }

/-! ### Tokens -/

/-- Passes blanks, comments and line breaks. A tab counts as a blank only where no key may begin, and a
byte order mark only at the beginning of a line. -/
def skipFrom (reader : Reader) (comment : Bool) : List Char → Mark → Bool → Reader
  | [], mark, keyAllowed => { reader with rest := [], mark, keyAllowed }
  | c :: rest, mark, keyAllowed =>
      if isBreak c then skipFrom reader false rest (mark.after c) (keyAllowed || !reader.inFlow)
      else if comment then skipFrom reader true rest (mark.after c) keyAllowed
      else if c = ' ' || c = '\t' && (reader.inFlow || !keyAllowed)
          || c = byteOrderMark && mark.column = 0 then
        skipFrom reader false rest (mark.after c) keyAllowed
      else if c = '#' then skipFrom reader true rest (mark.after c) keyAllowed
      else { reader with rest := c :: rest, mark, keyAllowed }

def skip (reader : Reader) : Reader :=
  reader.skipFrom false reader.rest reader.mark reader.keyAllowed

/-- At the end of the document, which ends a line. -/
def finish (reader : Reader) : Except Fault Reader := do
  let mark : Mark := if reader.mark.column = 0 then reader.mark else ⟨reader.mark.line + 1, 0⟩
  let reader := { reader with mark }.closeBlocks fun _ => true
  let reader ← reader.dropKey
  return { reader.push ⟨.streamEnd, mark⟩ with keyAllowed := false, ended := true }

/-- What every mark between documents does first. -/
def betweenDocuments (reader : Reader) : Except Fault Reader := do
  let reader ← (reader.closeBlocks fun _ => true).dropKey
  return { reader with keyAllowed := false }

def readDirective (reader : Reader) : Except Fault Reader := do
  let reader ← reader.betweenDocuments
  let (token, cursor) ← Property.directive reader.cursor
  return (reader.push token).goTo cursor

def readDocumentMark (reader : Reader) (kind : Token.Kind) : Except Fault Reader := do
  let reader ← reader.betweenDocuments
  return reader.indicator kind 3

def openFlow (reader : Reader) (kind : Token.Kind) : Except Fault Reader := do
  let reader ← reader.saveKey
  return { reader.indicator kind 1 with
    around := reader.possible :: reader.around, possible := none, keyAllowed := true }

def closeFlow (reader : Reader) (kind : Token.Kind) : Except Fault Reader := do
  let reader ← reader.dropKey
  let reader := { reader.indicator kind 1 with keyAllowed := false }
  match reader.around with
  | [] => return reader
  | possible :: around => return { reader with possible, around }

def readComma (reader : Reader) : Except Fault Reader := do
  let reader ← reader.dropKey
  return { reader.indicator .comma 1 with keyAllowed := true }

/-- Opens a block collection for an indicator that stands in a block, if it may stand here. -/
def indicatorInBlock (reader : Reader) (collection : Token.Kind) (problem : Problem) :
    Except Fault Reader :=
  if reader.inFlow then .ok reader
  else if reader.keyAllowed then
    .ok (reader.openBlock reader.mark.column reader.count ⟨collection, reader.mark⟩)
  else .error (.grammar problem reader.mark none)

def readEntry (reader : Reader) : Except Fault Reader := do
  let reader ← reader.indicatorInBlock .blockSequence .entryNotAllowed
  let reader ← reader.dropKey
  return { reader.indicator .entry 1 with keyAllowed := true }

def readKey (reader : Reader) : Except Fault Reader := do
  let reader ← reader.indicatorInBlock .blockMapping .keyNotAllowed
  let reader ← reader.dropKey
  return { reader.indicator .key 1 with keyAllowed := !reader.inFlow }

/-- At a colon; if a key may have begun before it, one has. -/
def readValue (reader : Reader) : Except Fault Reader := do
  match reader.possible with
  | some key =>
      let reader := reader.insert key.number ⟨.key, key.place⟩
      let reader := reader.openBlock key.place.column key.number ⟨.blockMapping, key.place⟩
      return { reader.indicator .value 1 with possible := none, keyAllowed := false }
  | none =>
      let reader ← reader.indicatorInBlock .blockMapping .valueNotAllowed
      return { reader.indicator .value 1 with keyAllowed := !reader.inFlow }

/-- Reads a token with which a key may begin, and behind which none may. -/
def readContent (reader : Reader) (read : Cursor → Except Fault (Token × Cursor)) :
    Except Fault Reader := do
  let reader ← reader.saveKey
  let (token, cursor) ← read reader.cursor
  return { (reader.push token).goTo cursor with keyAllowed := false }

def readQuotation (single : Bool) (cursor : Cursor) : Except Fault (Token × Cursor) := do
  let (text, rest) ← cursor.quotation single
  return (⟨.scalar text false, cursor.mark⟩, rest)

def readBlock (reader : Reader) (literal : Bool) : Except Fault Reader := do
  let reader ← reader.dropKey
  let (text, cursor) ← reader.cursor.block literal reader.columns.head?
  return { (reader.push ⟨.scalar text false, reader.mark⟩).goTo cursor with keyAllowed := true }

def readPlain (reader : Reader) : Except Fault Reader := do
  let reader ← reader.saveKey
  let indent := (reader.columns.head?.map (· + 1)).getD 0
  let plain ← reader.cursor.plain reader.inFlow indent
  return { (reader.push ⟨.scalar plain.text true, reader.mark⟩).goTo plain.rest with
    keyAllowed := plain.endsLine }

/-- The characters that begin no plain scalar, unless as a dash, question mark or colon before one
that is no blank. -/
def isIndicator (c : Char) : Bool :=
  c ∈ ['-', '?', ':', ',', '[', ']', '\x7b', '\x7d', '#', '&', '*', '!', '|', '>', '\'', '"', '%', '@',
    Char.ofNat 0x60]

def startsPlain (inFlow : Bool) (c : Char) (rest : List Char) : Bool :=
  !(isBlank c || isBreak c || isIndicator c) || c = '-' && !(rest.head?.any isBlank)
    || !inFlow && (c = '?' || c = ':') && !blankNext rest

def readToken (reader : Reader) : Except Fault Reader :=
  let lineStart := reader.mark.column = 0
  match reader.rest with
  | [] => reader.finish
  | c :: rest =>
      if lineStart ∧ c = '%' then reader.readDirective
      else if lineStart ∧ documentMarkNext (c :: rest) then
        reader.readDocumentMark (if c = '-' then .documentStart else .documentEnd)
      else if c = '[' then reader.openFlow .flowSequence
      else if c = '\x7b' then reader.openFlow .flowMapping
      else if c = ']' then reader.closeFlow .flowSequenceEnd
      else if c = '\x7d' then reader.closeFlow .flowMappingEnd
      else if c = ',' then reader.readComma
      else if c = '-' ∧ blankNext rest then reader.readEntry
      else if c = '?' ∧ (reader.inFlow ∨ blankNext rest) then reader.readKey
      else if c = ':' ∧ (reader.inFlow ∨ blankNext rest) then reader.readValue
      else if c = '*' then reader.readContent (Property.anchor true)
      else if c = '&' then reader.readContent (Property.anchor false)
      else if c = '!' then reader.readContent (Property.tag reader.inFlow)
      else if c = '|' ∧ !reader.inFlow then reader.readBlock true
      else if c = '>' ∧ !reader.inFlow then reader.readBlock false
      else if c = '\'' then reader.readContent (readQuotation true)
      else if c = '"' then reader.readContent (readQuotation false)
      else if startsPlain reader.inFlow c rest then reader.readPlain
      else .error (.grammar .strayCharacter reader.mark (some (.nextToken, reader.mark)))

/-- Reads the next token, with the ends of the blocks before it. -/
def step (reader : Reader) : Except Fault Reader := do
  let reader ← reader.skip.dropStale
  let column := reader.mark.column
  let reader ← (reader.closeBlocks fun opened => column < opened).readToken
  reader.dropStale

def run : Nat → Reader → Tokens
  | 0, reader => ⟨reader.tokens.reverse, none⟩
  | count + 1, reader =>
      match reader.step with
      | .error fault => ⟨(reader.tokens.drop (reader.count - reader.settled)).reverse, some fault⟩
      | .ok reader => if reader.ended then ⟨reader.tokens.reverse, none⟩ else run count reader

end Reader

def Tokens.ofText (text : List Char) : Tokens :=
  Reader.run (text.length + 2) (Reader.start text)

end OperatorConfig.Yaml
