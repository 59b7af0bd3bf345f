import OperatorConfig.Yaml.Node
import OperatorConfig.Yaml.Tokens

/-!
# The grammar of YAML documents

The tree of the first document of a stream of tokens. Each reader takes the tokens of its part and gives
the part with what is left, or with the fault that ended it. Block collections are between a beginning
and an end of their own, except that the entries of a sequence may stand at the column of the key that
they belong to; collections in brackets and braces have commas, and a sequence may hold single pairs.
-/

namespace OperatorConfig.Yaml

/-- The tokens that are left, and what names mean here. -/
structure Stream where
  tokens : List Token
  fault : Option Fault
  /-- The numbers of the anchors so far, the latest first. -/
  anchors : List (String × Nat) := []
  handles : List (String × List UInt8) := []

namespace Stream

def peek (stream : Stream) : Except Fault Token :=
  match stream.tokens with
  | token :: _ => .ok token
  | [] => .error (stream.fault.getD .severalDocuments)

def pop (stream : Stream) : Stream := { stream with tokens := stream.tokens.tail }

/-- The stream with an anchor more, and its number: how many other names have been given. -/
def addAnchor (stream : Stream) (name : String) : Nat × Stream :=
  let number := stream.anchors.length
  (number,
    { stream with anchors := (name, number) :: stream.anchors.filter fun known => known.1 ≠ name })

/-- What is said about a node before its content. -/
structure Said where
  start : Mark
  anchor : Option String := none
  tag : Option (String × List UInt8 × Mark) := none

/-- Takes an anchor or tag that comes next and that has not been given yet. -/
def takeProperty (said : Said) (stream : Stream) : Except Fault (Said × Stream) := do
  let token ← stream.peek
  match token.kind with
  | .anchor name => if said.anchor.isNone then return ({ said with anchor := name }, stream.pop)
  | .tag handle suffix =>
      if said.tag.isNone then return ({ said with tag := some (handle, suffix, token.start) }, stream.pop)
  | _ => pure ()
  return (said, stream)

def meaning (stream : Stream) (said : Said) : Except Fault (Option (List UInt8)) :=
  match said.tag with
  | none => .ok none
  | some (handle, suffix, place) =>
      if handle = "" then .ok (some suffix)
      else
        match stream.handles.find? fun known => known.1 = handle with
        | some (_, opening) => .ok (some (opening ++ suffix))
        | none => .error (.grammar .undefinedHandle place (some (.node, said.start)))

def takeProperties (stream : Stream) : Except Fault (Said × Option (List UInt8) × Stream) := do
  let token ← stream.peek
  let (said, stream) ← stream.takeProperty { start := token.start }
  let (said, stream) ←
    if said.anchor.isSome ∨ said.tag.isSome then stream.takeProperty said else pure (said, stream)
  return (said, ← stream.meaning said, stream)

end Stream

/-- A part of the tree and what is left behind it. -/
abbrev Read (α : Type) : Type := α × Except Fault Stream

def Read.broken (fault : Fault) : Read Node := (.broken fault, .error fault)

/-- The fault of a collection that began at `start`. -/
def Activity.fault (activity : Activity) (start place : Mark) (problem : Problem) : Fault :=
  .grammar problem place (some (activity, start))

/-- Reads the content behind a mark, which is empty if one of `marks` comes next. -/
def Stream.content (stream : Stream) (marks : List Token.Kind) (read : Stream → Read Node) :
    Read Node :=
  match stream.peek with
  | .error fault => .broken fault
  | .ok token => if token.kind ∈ marks then (.empty token.start, .ok stream) else read stream

/-- Reads the value of a key, which is empty unless the mark of a value comes next. -/
def Stream.value (stream : Stream) (marks : List Token.Kind) (read : Stream → Read Node) : Read Node :=
  match stream.peek with
  | .error fault => .broken fault
  | .ok token =>
      if token.kind = .value then stream.pop.content marks read else (.empty token.start, .ok stream)

/-- The first token of the next item or member of a collection in brackets or braces, or its end. All
but the first come behind a comma. -/
def Stream.separated (stream : Stream) (first : Bool) (ending : Token.Kind)
    (during : Activity × Mark) (problem : Problem) : Except Fault (Token × Stream) := do
  let token ← stream.peek
  if first ∨ token.kind = ending then return (token, stream)
  else if token.kind = .comma then return (← stream.pop.peek, stream.pop)
  else throw (.grammar problem token.start (some during))

def Read.andItems (item : Read Node) (rest : Stream → Read Items) : Read Items :=
  match item with
  | (node, .error fault) => (.item node (.broken fault), .error fault)
  | (node, .ok stream) =>
      let (items, left) := rest stream
      (.item node items, left)

def Read.andMembers (key : Read Node) (value : Stream → Read Node) (rest : Stream → Read Members) :
    Read Members :=
  match key with
  | (key, .error fault) => (.member key (.broken fault) (.broken fault), .error fault)
  | (key, .ok stream) =>
      match value stream with
      | (value, .error fault) => (.member key value (.broken fault), .error fault)
      | (value, .ok stream) =>
          let (members, left) := rest stream
          (.member key value members, left)

/-- The tokens behind which the entry of a block sequence is empty. -/
def entryEnds : List Token.Kind := [.entry, .blockEnd]

/-- The tokens behind which the entry of a sequence without indentation is empty. -/
def bareEntryEnds : List Token.Kind := [.entry, .key, .value, .blockEnd]

/-- The tokens behind which a key or value of a block mapping is empty. -/
def blockEnds : List Token.Kind := [.key, .value, .blockEnd]

mutual
/-- Reads a node. Nodes in a block may be block collections, and those of a mapping may be sequences
without indentation. The readers call each other at most `steps` deep. -/
def readNode (steps : Nat) (block bare : Bool) (stream : Stream) : Read Node :=
  match steps with
  | 0 => .broken .severalDocuments
  | steps + 1 =>
      match stream.peek with
      | .error fault => .broken fault
      | .ok token =>
          match token.kind with
          | .alias name =>
              match stream.anchors.lookup name with
              | some number => (.alias token.start number, .ok stream.pop)
              | none => .broken (.unknownAnchor token.start)
          | _ =>
              match stream.takeProperties with
              | .error fault => .broken fault
              | .ok (said, tag, stream) =>
                  match stream.peek with
                  | .error fault => .broken fault
                  | .ok token => readContent steps block bare said tag token stream
/-- Reads the content of a node, which begins with the token. -/
def readContent (steps : Nat) (block bare : Bool) (said : Stream.Said) (tag : Option (List UInt8))
    (token : Token) (stream : Stream) : Read Node :=
  match steps with
  | 0 => .broken .severalDocuments
  | steps + 1 =>
      let start := token.start
      let (anchor, named) :=
        match said.anchor with
        | some name =>
            let (number, stream) := stream.addAnchor name
            (some number, stream)
        | none => (none, stream)
      let properties : Properties := ⟨said.start, anchor, tag⟩
      match token.kind with
      | .scalar text plain => (.scalar properties text plain, .ok named.pop)
      | .flowSequence =>
          let (items, left) := readFlowItems steps true start named.pop
          (.sequence properties items, left)
      | .flowMapping =>
          let (members, left) := readFlowMembers steps true start named.pop
          (.mapping properties members, left)
      | kind =>
          if bare ∧ kind = .entry then
            let (items, left) := readBareItems steps named
            (.sequence properties items, left)
          else if block ∧ kind = .blockSequence then
            let (items, left) := readBlockItems steps start named.pop
            (.sequence properties items, left)
          else if block ∧ kind = .blockMapping then
            let (members, left) := readBlockMembers steps start named.pop
            (.mapping properties members, left)
          else if anchor.isSome ∨ tag.isSome then (.scalar properties "" true, .ok named)
          else
            let activity : Activity := if block then .blockNode else .flowNode
            .broken (activity.fault said.start start .noContent)
def readBlockItems (steps : Nat) (start : Mark) (stream : Stream) : Read Items :=
  match steps with
  | 0 => (.broken .severalDocuments, .error .severalDocuments)
  | steps + 1 =>
      match stream.peek with
      | .error fault => (.broken fault, .error fault)
      | .ok token =>
          match token.kind with
          | .entry =>
              (stream.pop.content entryEnds (readNode steps true false)).andItems
                (readBlockItems steps start)
          | .blockEnd => (.close, .ok stream.pop)
          | _ =>
              let fault := Activity.blockSequence.fault start token.start .noEntry
              (.broken fault, .error fault)
def readBareItems (steps : Nat) (stream : Stream) : Read Items :=
  match steps with
  | 0 => (.broken .severalDocuments, .error .severalDocuments)
  | steps + 1 =>
      match stream.peek with
      | .error fault => (.broken fault, .error fault)
      | .ok token =>
          match token.kind with
          | .entry =>
              (stream.pop.content bareEntryEnds (readNode steps true false)).andItems
                (readBareItems steps)
          | _ => (.close, .ok stream)
def readBlockMembers (steps : Nat) (start : Mark) (stream : Stream) : Read Members :=
  match steps with
  | 0 => (.broken .severalDocuments, .error .severalDocuments)
  | steps + 1 =>
      match stream.peek with
      | .error fault => (.broken fault, .error fault)
      | .ok token =>
          match token.kind with
          | .key =>
              (stream.pop.content blockEnds (readNode steps true true)).andMembers
                (·.value blockEnds (readNode steps true true)) (readBlockMembers steps start)
          | .blockEnd => (.close, .ok stream.pop)
          | _ =>
              let fault := Activity.blockMapping.fault start token.start .noKey
              (.broken fault, .error fault)
def readFlowItems (steps : Nat) (first : Bool) (start : Mark) (stream : Stream) : Read Items :=
  match steps with
  | 0 => (.broken .severalDocuments, .error .severalDocuments)
  | steps + 1 =>
      match stream.separated first .flowSequenceEnd (.flowSequence, start) .noCommaOrBracket with
      | .error fault => (.broken fault, .error fault)
      | .ok (token, stream) =>
          match token.kind with
          | .flowSequenceEnd => (.close, .ok stream.pop)
          | .key =>
              let (members, left) := readPair steps stream.pop
              Read.andItems (.mapping { place := token.start } members, left)
                (readFlowItems steps false start)
          | _ => (readNode steps false false stream).andItems (readFlowItems steps false start)
/-- Reads the single pair of a mapping that is an item of a sequence in brackets. -/
def readPair (steps : Nat) (stream : Stream) : Read Members :=
  match steps with
  | 0 => (.broken .severalDocuments, .error .severalDocuments)
  | steps + 1 =>
      let key :=
        match stream.peek with
        | .error fault => .broken fault
        | .ok token =>
            if token.kind ∈ [.value, .comma, .flowSequenceEnd] then (.empty token.start, .ok stream.pop)
            else readNode steps false false stream
      Read.andMembers key (·.value [.comma, .flowSequenceEnd] (readNode steps false false)) fun stream =>
        match stream.peek with
        | .error fault => (.broken fault, .error fault)
        | .ok _ => (.close, .ok stream)
def readFlowMembers (steps : Nat) (first : Bool) (start : Mark) (stream : Stream) : Read Members :=
  match steps with
  | 0 => (.broken .severalDocuments, .error .severalDocuments)
  | steps + 1 =>
      let ends : List Token.Kind := [.comma, .flowMappingEnd]
      match stream.separated first .flowMappingEnd (.flowMapping, start) .noCommaOrBrace with
      | .error fault => (.broken fault, .error fault)
      | .ok (token, stream) =>
          match token.kind with
          | .flowMappingEnd => (.close, .ok stream.pop)
          | .key =>
              (stream.pop.content (.value :: ends) (readNode steps false false)).andMembers
                (·.value ends (readNode steps false false)) (readFlowMembers steps false start)
          | _ =>
              (readNode steps false false stream).andMembers
                (fun stream => stream.content [] fun stream => (.empty start, .ok stream))
                (readFlowMembers steps false start)
end

/-! ### Documents -/

structure Directives where
  versioned : Bool := false
  handles : List (String × List UInt8) := []

def usualHandles : List (String × List UInt8) :=
  [("!", Text.bytes "!"), ("!!", Text.bytes "tag:yaml.org,2002:")]

def Stream.takeDirectives (fault : Option Fault) :
    Directives → List Token → Except Fault (Directives × List Token)
  | _, [] => .error (fault.getD .severalDocuments)
  | directives, token :: rest =>
      match token.kind with
      | .version major minor =>
          if directives.versioned then .error (.grammar .repeatedVersion token.start none)
          else if major ≠ 1 ∨ (minor ≠ 1 ∧ minor ≠ 2) then
            .error (.grammar .otherVersion token.start none)
          else takeDirectives fault { directives with versioned := true } rest
      | .handle name meaning =>
          if directives.handles.any (·.1 = name) then
            .error (.grammar .repeatedHandle token.start none)
          else
            takeDirectives fault
              { directives with handles := directives.handles ++ [(name, meaning)] } rest
      | _ => .ok (directives, token :: rest)

/-- The tokens with which a document begins that is not bare. -/
def Token.Kind.beginsDocument : Token.Kind → Bool
  | .version .. => true
  | .handle .. => true
  | .documentStart => true
  | _ => false

/-- Takes the beginning of a document with directives or a mark. -/
def Stream.takeBeginning (stream : Stream) : Except Fault Stream := do
  let (directives, tokens) ← takeDirectives stream.fault {} stream.tokens
  let stream := { stream with tokens, handles := directives.handles ++ usualHandles }
  let token ← stream.peek
  if token.kind = .documentStart then return stream.pop
  else throw (.grammar .noDocumentStart token.start none)

/-- Whether a document has no content. -/
def Token.Kind.endsDocument (kind : Token.Kind) : Bool :=
  kind.beginsDocument || kind = .documentEnd || kind = .streamEnd

/-- Reads the root of the document that comes next; there is none at the end of the stream. -/
def Stream.root (stream : Stream) (steps : Nat) : Option (Read Node) :=
  match stream.peek with
  | .error fault => some (.broken fault)
  | .ok token =>
      if token.kind = .streamEnd then none
      else if token.kind.beginsDocument then
        match stream.takeBeginning with
        | .error fault => some (.broken fault)
        | .ok stream =>
            match stream.peek with
            | .error fault => some (.broken fault)
            | .ok token =>
                if token.kind.endsDocument then some (.empty token.start, .ok stream)
                else some (readNode steps true false stream)
      else some (readNode steps true false { stream with handles := usualHandles })

def Stream.hasMore : List Token → Bool
  | [] => true
  | token :: rest =>
      match token.kind with
      | .documentEnd => hasMore rest
      | .streamEnd => false
      | _ => true

def Document.ofTokens (tokens : Tokens) : Document :=
  let stream : Stream := { tokens := tokens.tokens, fault := tokens.fault }
  match stream.root (4 * tokens.tokens.length + 8) with
  | none => { root := none }
  | some (root, .error _) => { root }
  | some (root, .ok stream) =>
      match stream.peek with
      | .error fault => { root, fault := some fault }
      | .ok _ => { root, more := Stream.hasMore stream.tokens }

def Document.ofText (text : List Char) : Document :=
  Document.ofTokens (Tokens.ofText text)

end OperatorConfig.Yaml
