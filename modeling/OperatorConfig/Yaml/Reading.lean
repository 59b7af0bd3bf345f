import OperatorConfig.Text.Quoted
import OperatorConfig.Yaml.Grammar
import OperatorConfig.Yaml.Resolution

/-!
# Reading the value of a YAML document

The tree of a document becomes a value: scalars get their meanings and aliases are replaced by the nodes
they stand for. Collections may nest 128 deep, and the number of aliases followed is bounded by the size
of the document. A reader either takes any YAML value, with distinct keys, or only JSON values, in which
the keys are the texts of scalars and the last member of a key wins.
-/

namespace OperatorConfig.Yaml

open Schema (Mismatch)

/-- What a reader takes. -/
inductive Taken where
  | values
  | jsonValues
deriving DecidableEq

def Taken.wanted : Taken → String
  | .values => "any YAML value"
  | .jsonValues => "any valid JSON value"

/-- A computation that counts the aliases it follows. -/
abbrev Following := StateT Nat (Except Fault)

/-- What reading a document goes by. -/
structure Source where
  taken : Taken
  anchored : List (Nat × Node)
  /-- How many aliases may be followed. -/
  limit : Nat

namespace Source

/-- The node that a node stands for: for an alias the last one with its number. -/
def follow (source : Source) (node : Node) : Following Node :=
  match node with
  | .alias place number => do
      let count ← get
      if source.limit ≤ count then throw .tooOften
      set (count + 1)
      match source.anchored.reverse.lookup number with
      | some target => return target
      | none => throw (.unknownAnchor place)
  | other => return other

/-- The tag of one's own that bytes are: what stands behind an exclamation mark. -/
def ownTag? : List UInt8 → Option String
  | [] => none
  | first :: rest =>
      if first = 33 then
        (Text.ofBytes? (if rest.isEmpty then [first] else rest)).map fun name =>
          match name.toList with
          | '!' :: c :: rest => String.ofList (c :: rest)
          | _ => name
      else none

/-- The meaning of a scalar with a tag that is not one's own. -/
def meaning (tag : Option (List UInt8)) (text : String) (plain : Bool) : Except Mismatch Meaning :=
  match tag with
  | none => .ok (if plain then .ofPlain text else .text text)
  | some bytes =>
      match (Text.ofBytes? bytes).bind (Meaning.forced? · text) with
      | some forced => forced
      | none =>
          .ok (if bytes.head? = some 33 ∧ plain then .ofPlain text else .text text)

def ofMeaning (taken : Taken) : Meaning → Except Mismatch Value
  | .null => .ok .null
  | .flag value => .ok (.flag value)
  | .integer value => .ok (.integer value)
  | .wide value =>
      match taken with
      | .values => .error (.kind (.wideInteger value) taken.wanted)
      | .jsonValues => .error (.other "JSON number out of range")
  | .real value => .ok (.real value)
  | .text value => .ok (.text value)

def fitting {α : Type} (path : Option String) (place : Mark) : Except Mismatch α → Following α
  | .ok value => return value
  | .error mismatch => throw (.value mismatch path place)

/-- Reads a node with its tag, given how it is read without one. -/
def underTag (source : Source) (path : Option String) (properties : Properties)
    (read : Option (List UInt8) → Following Value) : Following Value :=
  match properties.tag.bind ownTag? with
  | none => read properties.tag
  | some tag =>
      match source.taken with
      | .values => do return .tagged tag (← read none)
      | .jsonValues => fitting path properties.place (.error (.kind .tagged source.taken.wanted))

def itemPath (path : Option String) (index : Nat) : Option String :=
  some (path.getD "." ++ s!"[{index}]")

/-- The path to the value of a key; only a scalar names its value. -/
def memberPath (path : Option String) (key : Node) : Option String :=
  let opening := (path.map (· ++ ".")).getD ""
  match key with
  | .scalar _ text _ => some (opening ++ text)
  | _ => some (opening ++ "?")

def keyMessage : Value → String
  | .null => "with null key"
  | .flag value => s!"with key `{value}`"
  | .integer value => s!"with key {value}"
  | .real value => "with key " ++ value.message
  | .text value => "with key " ++ Text.quoted value
  | _ => "in YAML map"

/-- The text of a key where keys are texts. -/
def keyText (source : Source) (path : Option String) (first : Bool) (node : Node) :
    Following Value := do
  let wanted := if first then "a string key" else "a string"
  match ← source.follow node with
  | .scalar _ text _ => return .text text
  | .sequence properties _ => fitting path properties.place (.error (.kind .sequence wanted))
  | .mapping properties _ => fitting path properties.place (.error (.kind .map wanted))
  | .alias place _ => throw (.unknownAnchor place)
  | .broken fault => throw fault

def items (read : Option String → Node → Following Value) (path : Option String) (index : Nat) :
    Items → Following (List Value)
  | .close => return []
  | .broken fault => throw fault
  | .item node rest => do
      let value ← read (itemPath path index) node
      return value :: (← items read path (index + 1) rest)

/-- Reads members behind those with the keys `known` of a mapping that begins at `place`. -/
def members (source : Source) (read : Option String → Node → Following Value) (path : Option String)
    (place : Mark) (known : List Value) : Members → Following (List (Value × Value))
  | .close => return []
  | .broken fault => throw fault
  | .member key value rest => do
      let name ←
        match source.taken with
        | .values => read path key
        | .jsonValues => source.keyText path known.isEmpty key
      if source.taken = .values ∧ known.any (·.same name) then
        throw (.value (.other ("duplicate entry " ++ keyMessage name)) path place)
      let value ← read (memberPath path key) value
      return (name, value) :: (← source.members read path place (name :: known) rest)

/-- Reads a node that is no alias. The nodes within it are read by `inner`, unless there is none because
they are too deep. -/
def content (source : Source) (inner : Option (Option String → Node → Following Value))
    (path : Option String) : Node → Following Value
  | .broken fault => throw fault
  | .alias place _ => throw (.unknownAnchor place)
  | .scalar properties text plain =>
      source.underTag path properties fun tag =>
        fitting path properties.place
          (meaning tag text plain >>= ofMeaning source.taken)
  | .sequence properties items =>
      source.underTag path properties fun _ =>
        match inner with
        | none => throw (.tooDeep properties.place)
        | some read => return .sequence (← Source.items read path 0 items)
  | .mapping properties members =>
      source.underTag path properties fun _ =>
        match inner with
        | none => throw (.tooDeep properties.place)
        | some read => return .mapping (← source.members read path properties.place [] members)

/-- Reads the node at a path; collections may nest `depth` deep. -/
def value (source : Source) : Nat → Option String → Node → Following Value
  | 0, path, node => do source.content none path (← source.follow node)
  | depth + 1, path, node => do
      source.content (some (source.value depth)) path (← source.follow node)

end Source

def deepest : Nat := 128

/-- The value of a document, behind which there may be no other; without a root it is null. -/
def Document.value (taken : Taken) (document : Document) : Except Fault Value := do
  let value ←
    match document.root with
    | none => pure .null
    | some root =>
        let source : Source := ⟨taken, root.anchored, 100 * root.size⟩
        (source.value deepest none root).run' 0
  match document.fault with
  | some fault => throw fault
  | none => if document.more then throw .severalDocuments else return value

def ofBytes (taken : Taken) (document : List UInt8) : Except Fault Value := do
  let text ← characters document
  (Document.ofText text).value taken

end OperatorConfig.Yaml
