import OperatorConfig.Cluster.Metadata
import OperatorConfig.Resolution.StatusReading
import OperatorConfig.Settings.Overrides

/-!
# Objects in replies

An object whose kind the operator does not know in full is taken as it is, apart from its metadata. The
custom resource of an installation is known: it has metadata and a specification, and perhaps a status.
-/

namespace OperatorConfig.Cluster

open Json (Node Items Members)
open Schema (Complaint faultless unwanted foldMembers)

/-- Takes in a member of an object; `found` tells whether there has been metadata. -/
def takeMember (depth : Nat) : Bool × List (String × Json) → String → Nat → Node →
    Except Complaint (Bool × List (String × Json))
  | (found, others), key, settled, value =>
      if key = "metadata" then
        if found then .error (.mismatch (.duplicateField key) settled)
        else do
          let _ ← metadataForm.read depth none value
          return (true, others)
      else do
        let value ← faultless (value.value depth)
        return (found, others ++ [(key, value)])

/-- An object of any kind: its members without the metadata. -/
def readObject : Node → Except Complaint Json
  | .object start members => do
      let depth ← faultless (Json.enter Json.deepest start)
      let (_, others) ← foldMembers (takeMember depth) (false, []) members
      return (Json.object others).canonical
  | node => unwanted "struct DynamicObject" node

/-- The custom resource of an installation. -/
structure Installation where
  specification : Specification
  status : Option Status := none

namespace Installation

/-- The name under which decoders know the custom resource. -/
def kind : String := "Syndesis"

/-- What has been read of a custom resource. -/
structure Draft where
  metadata : Option Json := none
  specification : Option Specification := none
  status : Option (Option Status) := none

/-- The custom resource, if nothing is missing at its end. -/
def Draft.complete (draft : Draft) (stop : Nat) : Except Complaint Installation :=
  match draft.metadata, draft.specification with
  | none, _ => .error (.mismatch (.missingField "metadata") stop)
  | some _, none => .error (.mismatch (.missingField "spec") stop)
  | some _, some specification => .ok ⟨specification, draft.status.join⟩

def Draft.takeMetadata (depth : Nat) (draft : Draft) (node : Node) : Except Complaint Draft := do
  return { draft with metadata := some (← metadataForm.read depth none node) }

def Draft.takeSpecification (depth : Nat) (draft : Draft) (node : Node) : Except Complaint Draft := do
  let overrides ← (Schema.Shaped.shape Platform).readWithin Specification.kind depth node
  return { draft with specification := some ⟨Schema.Shaped.ofValue overrides⟩ }

def Draft.takeStatus (depth : Nat) (draft : Draft) (node : Node) : Except Complaint Draft := do
  return { draft with status := some (← Status.readOption (Status.readNode depth) node) }

def Draft.take (depth : Nat) (draft : Draft) (key : String) (settled : Nat) (node : Node) :
    Except Complaint Draft :=
  let once (held : Bool) (read : Except Complaint Draft) : Except Complaint Draft :=
    if held then .error (.mismatch (.duplicateField key) settled) else read
  match key with
  | "metadata" => once draft.metadata.isSome (draft.takeMetadata depth node)
  | "spec" => once draft.specification.isSome (draft.takeSpecification depth node)
  | "status" => once draft.status.isSome (draft.takeStatus depth node)
  | _ => do
      faultless node.skip
      return draft

/-- Reads the values of an array, of which `index` have been read. -/
def readItems (index : Nat) (draft : Draft) :
    List (Draft → Node → Except Complaint Draft) → Items → Except Complaint Installation
  | [], .close stop => draft.complete stop
  | [], .fault _ _ surplus => .error (.fault surplus)
  | [], .item value _ => .error (.fault ⟨.trailingCharacters, value.start + 1⟩)
  | _ :: _, .close stop =>
      .error (.mismatch (.length index ("struct " ++ kind ++ " with 3 elements")) stop)
  | _ :: _, .fault strict _ _ => .error (.fault strict)
  | take :: takes, .item value rest => do
      let draft ← take draft value
      readItems (index + 1) draft takes rest

def readNode : Node → Except Complaint Installation
  | .object start members => do
      let depth ← faultless (Json.enter Json.deepest start)
      let draft ← foldMembers (Draft.take depth) {} members
      draft.complete (Schema.membersStop members)
  | .array start items => do
      let depth ← faultless (Json.enter Json.deepest start)
      readItems 0 {}
        [Draft.takeMetadata depth, Draft.takeSpecification depth, Draft.takeStatus depth] items
  | node => unwanted ("struct " ++ kind) node

end Installation

end OperatorConfig.Cluster
