import OperatorConfig.Resolution.Status
import OperatorConfig.Schema.Read

/-!
# Reading a status

A status is an object, in which only the flag has a value of its own when it is missing and null stands
for nothing, or an array with all its values in order. A phase is a text, or an object with the name of
the phase and null.
-/

namespace OperatorConfig.Status

open Json (Node Items Members Document)
open Schema (Complaint faultless unwanted foldMembers readText readFlag)

def kind : String := "SyndesisStatus"

def nodeStop : Node → Nat
  | .null span => span.stop
  | .flag _ span => span.stop
  | .number _ span => span.stop
  | .text _ span => span.stop
  | .array _ items => itemsStop items
  | .object _ members => Schema.membersStop members
  | .broken _ strict _ => strict.offset
where
  itemsStop : Items → Nat
    | .close stop => stop
    | .fault strict _ _ => strict.offset
    | .item _ rest => itemsStop rest

def phaseOf (name : String) (stop : Nat) : Except Complaint Phase :=
  if name = Phase.resolved.name then .ok .resolved
  else if name = Phase.resolutionFailed.name then .ok .resolutionFailed
  else
    .error (.mismatch
      (.unknownVariant name [Phase.resolved.name, Phase.resolutionFailed.name]) stop)

def readPhase (depth : Nat) : Node → Except Complaint Phase
  | .text content span => do phaseOf (← faultless content) span.stop
  | .object start members => do
      let _ ← faultless (Json.enter depth start)
      match members with
      | .close stop => .error (.fault ⟨.noValue, stop⟩)
      | .fault strict _ => .error (.fault strict)
      | .member key settled value rest => do
          let phase ← phaseOf (← faultless key) settled
          match value with
          | .null _ => pure ()
          | value => unwanted "unit" value
          match rest with
          | .close _ => return phase
          | .fault strict _ => .error (.fault strict)
          | .member .. => .error (.fault ⟨.noValue, nodeStop value⟩)
  | .broken _ strict _ => .error (.fault strict)
  | node => .error (.fault ⟨.noValue, node.start + 1⟩)

/-- A value, or nothing where null stands. -/
def readOption {α : Type} (read : Node → Except Complaint α) : Node → Except Complaint (Option α)
  | .null _ => .ok none
  | node => (read node).map some

structure Draft where
  phase : Option (Option Phase) := none
  message : Option (Option String) := none
  databaseNeedsUpgrade : Option Bool := none
  upgradeDecision : Option (Option String) := none
  lastResolutionTime : Option (Option String) := none

/-- The status, with nothing for what has not been read. -/
def Draft.complete (draft : Draft) : Status where
  phase := draft.phase.join
  message := draft.message.join
  databaseNeedsUpgrade := draft.databaseNeedsUpgrade.getD false
  upgradeDecision := draft.upgradeDecision.join
  lastResolutionTime := draft.lastResolutionTime.join

def Draft.take (depth : Nat) (draft : Draft) (key : String) (settled : Nat) (node : Node) :
    Except Complaint Draft :=
  let once {α : Type} (held : Option α) (read : Except Complaint α) (put : α → Draft) :
      Except Complaint Draft :=
    match held with
    | some _ => .error (.mismatch (.duplicateField key) settled)
    | none => read.map put
  match key with
  | "phase" =>
      once draft.phase (readOption (readPhase depth) node) fun v => { draft with phase := some v }
  | "message" =>
      once draft.message (readOption readText node) fun v => { draft with message := some v }
  | "databaseNeedsUpgrade" =>
      once draft.databaseNeedsUpgrade (readFlag node) fun v =>
        { draft with databaseNeedsUpgrade := some v }
  | "upgradeDecision" =>
      once draft.upgradeDecision (readOption readText node) fun v =>
        { draft with upgradeDecision := some v }
  | "lastResolutionTime" =>
      once draft.lastResolutionTime (readOption readText node) fun v =>
        { draft with lastResolutionTime := some v }
  | _ => do
      faultless node.skip
      return draft

def keys : List String :=
  ["phase", "message", "databaseNeedsUpgrade", "upgradeDecision", "lastResolutionTime"]

/-- Reads the values of an array; `index` of them have been read. -/
def readItems (depth index : Nat) (draft : Draft) : List String → Items → Except Complaint Draft
  | [], .close _ => .ok draft
  | [], .fault _ _ surplus => .error (.fault surplus)
  | [], .item value _ => .error (.fault ⟨.trailingCharacters, value.start + 1⟩)
  | key :: keys, .close stop =>
      if key = "databaseNeedsUpgrade" then readItems depth (index + 1) draft keys (.close stop)
      else .error (.mismatch (.length index ("struct " ++ kind ++ " with 5 elements")) stop)
  | _ :: _, .fault strict _ _ => .error (.fault strict)
  | key :: keys, .item value rest => do
      let draft ← draft.take depth key 0 value
      readItems depth (index + 1) draft keys rest

def readNode (depth : Nat) : Node → Except Complaint Status
  | .object start members => do
      let depth ← faultless (Json.enter depth start)
      let draft ← foldMembers (Draft.take depth) {} members
      return draft.complete
  | .array start items => do
      let depth ← faultless (Json.enter depth start)
      let draft ← readItems depth 0 {} keys items
      return draft.complete
  | node => unwanted ("struct " ++ kind) node

def readDocument (document : Document) : Except Complaint Status :=
  document.whole .fault (readNode Json.deepest document.root)

end OperatorConfig.Status
