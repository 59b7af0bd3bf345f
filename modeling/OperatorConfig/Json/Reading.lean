import OperatorConfig.Json.Node

/-!
# Reading the value of a JSON text

A value is read strictly: every text in it must be Unicode, every number in range, and arrays and
objects may nest up to 127 deep. A value that nobody asks for is skipped, and then only its spelling
counts.
-/

namespace OperatorConfig.Json

/-- How deep arrays and objects may nest. -/
def deepest : Nat := 127

mutual
/-- The first fault that a reader finds who skips the value. -/
def Node.skip : Node → Except Fault Unit
  | .array _ items => items.skip
  | .object _ members => members.skip
  | .broken _ _ skipped => .error skipped
  | .null _ => .ok ()
  | .flag _ _ => .ok ()
  | .number _ _ => .ok ()
  | .text _ _ => .ok ()
def Items.skip : Items → Except Fault Unit
  | .close _ => .ok ()
  | .fault _ skipped _ => .error skipped
  | .item value rest => do
      value.skip
      rest.skip
def Members.skip : Members → Except Fault Unit
  | .close _ => .ok ()
  | .fault _ skipped => .error skipped
  | .member _ _ value rest => do
      value.skip
      rest.skip
end

/-- Counts an array or object that starts at the offset against the depth that is left. -/
def enter (depth start : Nat) : Except Fault Nat :=
  match depth with
  | 0 => .error ⟨.tooDeep, start + 1⟩
  | left + 1 => .ok left

mutual
/-- The value, with members as they are written; `depth` more arrays and objects may nest. -/
def Node.value (depth : Nat) : Node → Except Fault Json
  | .null _ => .ok .null
  | .flag value _ => .ok (.flag value)
  | .number value _ => value.map .number
  | .text content _ => content.map .text
  | .array start items => do
      let depth ← enter depth start
      return .array (← items.values depth)
  | .object start members => do
      let depth ← enter depth start
      return .object (← members.values depth)
  | .broken _ strict _ => .error strict
def Items.values (depth : Nat) : Items → Except Fault (List Json)
  | .close _ => .ok []
  | .fault strict _ _ => .error strict
  | .item value rest => do
      let value ← value.value depth
      return value :: (← rest.values depth)
def Members.values (depth : Nat) : Members → Except Fault (List (String × Json))
  | .close _ => .ok []
  | .fault strict _ => .error strict
  | .member key _ value rest => do
      let key ← key
      let value ← value.value depth
      return (key, value) :: (← rest.values depth)
end

/-- What a reader of the whole document makes of it, given what it makes of the value: nothing may
stand behind the value. -/
def Document.whole {ε α : Type} (complain : Fault → ε) (document : Document)
    (value : Except ε α) : Except ε α := do
  let value ← value
  match document.trailing with
  | some start => .error (complain ⟨.trailingCharacters, start + 1⟩)
  | none => return value

def Document.value (document : Document) : Except Fault Json :=
  document.whole id ((document.root.value deepest).map canonical)

/-- The value written in a text. -/
def ofBytes (text : List UInt8) : Except Fault Json :=
  (Document.ofBytes text).value

end OperatorConfig.Json
