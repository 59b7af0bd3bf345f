import OperatorConfig.Json.Token

/-!
# A JSON text as it stands

The tree of a document before anything is made of it: members in the order in which they were written,
with repeated keys, every value with its place, and what is wrong wherever the text goes wrong. Readers
walk the tree in the order of the text, so the first thing that a reader minds is what it reports: a
value of the wrong kind early in a text comes before a missing bracket at its end.

A fault between two items or members is kept in the words of each kind of reader: one that wants the
values, one that skips them, and one that has already taken as many items as it wants.
-/

namespace OperatorConfig.Json

structure Span where
  start : Nat
  stop : Nat
deriving DecidableEq

mutual
/-- A value as it is written. -/
inductive Node where
  | null (span : Span)
  | flag (value : Bool) (span : Span)
  | number (value : Except Fault Number) (span : Span)
  | text (content : Except Fault String) (span : Span)
  | array (start : Nat) (items : Items)
  | object (start : Nat) (members : Members)
  /-- Nothing that could be read as a value. -/
  | broken (start : Nat) (strict skipped : Fault)
/-- The rest of an array. -/
inductive Items where
  | close (stop : Nat)
  | fault (strict skipped surplus : Fault)
  | item (value : Node) (rest : Items)
/-- The rest of an object. -/
inductive Members where
  | close (stop : Nat)
  | fault (strict skipped : Fault)
  /-- A member; `settled` is what has been read when the key is found to be repeated. -/
  | member (key : Except Fault String) (settled : Nat) (value : Node) (rest : Members)
end

/-- A document: its value and where more than a value begins. -/
structure Document where
  root : Node
  trailing : Option Nat

def Node.start : Node → Nat
  | .null span => span.start
  | .flag _ span => span.start
  | .number _ span => span.start
  | .text _ span => span.start
  | .array start _ => start
  | .object start _ => start
  | .broken start _ _ => start

namespace Node

/-- An array or object that is not closed yet, with what it holds so far in reverse. -/
inductive Frame where
  | array (start : Nat) (items : List Node)
  | object (start : Nat) (members : List (Except Fault String × Nat × Node))
  /-- An object with a key whose value is due. -/
  | member (start : Nat) (members : List (Except Fault String × Nat × Node))
      (key : Except Fault String) (settled : Nat)

/-- What may come next. -/
inductive Awaited where
  | value
  | firstItem
  | nextItem
  | firstKey
  | nextKey
  | colon
  /-- A comma or the end of the array or object. -/
  | separator

/-- How far a text has been read. -/
inductive Progress where
  | within (awaited : Awaited) (frames : List Frame)
  | complete (root : Node)
  /-- What follows makes no difference. -/
  | settled (document : Document)

def prepend (items : List Node) (rest : Items) : Items :=
  items.foldl (fun rest item => .item item rest) rest

def prependMembers (members : List (Except Fault String × Nat × Node)) (rest : Members) : Members :=
  members.foldl (fun rest (key, settled, value) => .member key settled value rest) rest

/-- The value in place of what is open, when the text goes wrong inside it. -/
def abandon (node : Node) : List Frame → Node
  | [] => node
  | .array start items :: frames =>
      abandon (.array start (prepend items (.item node (.close 0)))) frames
  | .object start members :: frames =>
      abandon (.object start (prependMembers members (.close 0))) frames
  | .member start members key settled :: frames =>
      abandon (.object start (prependMembers members (.member key settled node (.close 0)))) frames

/-- Ends the array or object that was opened last with a fault. -/
def abandonAt (strict skipped surplus : Fault) : List Frame → Progress
  | [] => .settled ⟨.broken strict.offset strict skipped, none⟩
  | .array start items :: frames =>
      .settled ⟨abandon (.array start (prepend items (.fault strict skipped surplus))) frames, none⟩
  | .object start members :: frames =>
      .settled ⟨abandon (.object start (prependMembers members (.fault strict skipped))) frames, none⟩
  | .member start members key settled :: frames =>
      let value := Node.broken strict.offset strict skipped
      .settled ⟨abandon (.object start
        (prependMembers members (.member key settled value (.close 0)))) frames, none⟩

/-- Puts a complete value where it belongs. -/
def deliver (node : Node) : List Frame → Progress
  | .array start items :: frames => .within .separator (.array start (node :: items) :: frames)
  | .member start members key settled :: frames =>
      .within .separator (.object start ((key, settled, node) :: members) :: frames)
  | _ => .complete node

def begin (token : Token) (frames : List Frame) : Progress :=
  let span : Span := ⟨token.start, token.stop⟩
  let broken (strict skipped : Fault) : Progress :=
    .settled ⟨abandon (.broken token.start strict skipped) frames, none⟩
  match token.kind with
  | .null => deliver (.null span) frames
  | .flag value => deliver (.flag value span) frames
  | .number value => deliver (.number value span) frames
  | .text content => deliver (.text content span) frames
  | .mark '[' => .within .firstItem (.array token.start [] :: frames)
  | .mark '{' => .within .firstKey (.object token.start [] :: frames)
  | .brokenText strict skipped => broken strict skipped
  | .brokenWord strict skipped => broken strict skipped
  | _ => broken ⟨.noValue, token.start + 1⟩ ⟨.noValue, token.start + 1⟩

def beginKey (token : Token) (frames : List Frame) : Progress :=
  match token.kind, frames with
  | .text content, .object start members :: frames =>
      .within .colon (.member start members content token.stop :: frames)
  | .brokenText strict skipped, _ => abandonAt strict skipped strict frames
  | _, _ =>
      let fault : Fault := ⟨.keyNotText, token.start + 1⟩
      abandonAt fault fault fault frames

def close (stop : Nat) : List Frame → Progress
  | .array start items :: frames => deliver (.array start (prepend items (.close stop))) frames
  | .object start members :: frames =>
      deliver (.object start (prependMembers members (.close stop))) frames
  | frames => abandonAt ⟨.noValue, stop⟩ ⟨.noValue, stop⟩ ⟨.noValue, stop⟩ frames

/-- Records what has been read when the token after a key has been seen. -/
def settle (offset : Nat) : List Frame → List Frame
  | .member start members key _ :: frames => .member start members key offset :: frames
  | frames => frames

/-- Reads a comma or the end of the array or object. -/
def separate (token : Token) (frames : List Frame) : Progress :=
  let next := token.start + 1
  match frames, token.kind with
  | .array .. :: _, .mark ',' => .within .nextItem frames
  | .array .. :: _, .mark ']' => close token.stop frames
  | .array .. :: _, _ =>
      abandonAt ⟨.noCommaOrBracket, next⟩ ⟨.noCommaOrBracket, next⟩ ⟨.trailingCharacters, next⟩ frames
  | .object .. :: _, .mark ',' => .within .nextKey frames
  | .object .. :: _, .mark '}' => close token.stop frames
  | _, _ =>
      abandonAt ⟨.noCommaOrBrace, next⟩ ⟨.noCommaOrBrace, next⟩ ⟨.noCommaOrBrace, next⟩ frames

def step (progress : Progress) (token : Token) : Progress :=
  let next := token.start + 1
  match progress with
  | .settled document => .settled document
  | .complete root => .settled ⟨root, some token.start⟩
  | .within .value frames => begin token frames
  | .within .firstItem frames =>
      match token.kind with
      | .mark ']' => close token.stop frames
      | _ => begin token frames
  | .within .nextItem frames =>
      match token.kind with
      | .mark ']' =>
          abandonAt ⟨.trailingComma, next⟩ ⟨.noValue, next⟩ ⟨.trailingComma, next⟩ frames
      | _ => begin token frames
  | .within .firstKey frames =>
      match token.kind with
      | .mark '}' => close token.stop frames
      | _ => beginKey token frames
  | .within .nextKey frames =>
      match token.kind with
      | .mark '}' =>
          abandonAt ⟨.trailingComma, next⟩ ⟨.keyNotText, next⟩ ⟨.trailingComma, next⟩ frames
      | _ => beginKey token frames
  | .within .colon frames =>
      match token.kind with
      | .mark ':' => .within .value (settle token.start frames)
      | .mark '}' => abandonAt ⟨.noColon, next⟩ ⟨.noColon, next⟩ ⟨.noColon, next⟩ (settle next frames)
      | _ =>
          abandonAt ⟨.noColon, next⟩ ⟨.noColon, next⟩ ⟨.noColon, next⟩ (settle token.start frames)
  | .within .separator frames => separate token frames

def finish (size : Nat) (progress : Progress) : Progress :=
  let ended (strict skipped surplus : Defect) (frames : List Frame) : Progress :=
    abandonAt ⟨strict, size⟩ ⟨skipped, size⟩ ⟨surplus, size⟩ (settle size frames)
  match progress with
  | .settled document => .settled document
  | .complete root => .settled ⟨root, none⟩
  | .within .value frames =>
      .settled ⟨abandon (.broken size ⟨.endInValue, size⟩ ⟨.endInValue, size⟩) frames, none⟩
  | .within .firstItem frames => ended .endInArray .endInArray .endInArray frames
  | .within .nextItem frames => ended .endInValue .endInValue .trailingCharacters frames
  | .within .firstKey frames => ended .endInObject .endInObject .endInObject frames
  | .within .nextKey frames => ended .endInValue .endInObject .endInValue frames
  | .within .colon frames => ended .endInObject .endInObject .endInObject frames
  | .within .separator frames =>
      match frames with
      | .array .. :: _ => ended .endInArray .endInArray .endInArray frames
      | _ => ended .endInObject .endInObject .endInObject frames

end Node

def Document.ofTokens (size : Nat) (tokens : List Token) : Document :=
  match Node.finish size (tokens.foldl Node.step (.within .value [])) with
  | .settled document => document
  | _ => ⟨.broken size ⟨.endInValue, size⟩ ⟨.endInValue, size⟩, none⟩

def Document.ofBytes (text : List UInt8) : Document :=
  Document.ofTokens text.length (Token.list text)

end OperatorConfig.Json
