import OperatorConfig.Yaml.Fault

/-!
# A YAML document as it stands

The tree of a document before values are made of it: scalars as they are written, aliases unexpanded,
keys in order and repeated. Where the document breaks off the tree holds the fault, so that a reader who
walks the tree in the order of the document meets whatever it minds before.
-/

namespace OperatorConfig.Yaml

/-- What is said about a node, and where it begins. -/
structure Properties where
  place : Mark
  anchor : Option Nat := none
  /-- Its tag; an escape in a tag may spell bytes that are no text. -/
  tag : Option (List UInt8) := none

mutual
/-- A node of a document. -/
inductive Node where
  | scalar (properties : Properties) (text : String) (plain : Bool)
  | sequence (properties : Properties) (items : Items)
  | mapping (properties : Properties) (members : Members)
  /-- Stands for the node with the anchor of the number. -/
  | alias (place : Mark) (number : Nat)
  | broken (fault : Fault)
inductive Items where
  | close
  | broken (fault : Fault)
  | item (node : Node) (rest : Items)
inductive Members where
  | close
  | broken (fault : Fault)
  | member (key value : Node) (rest : Members)
end

/-- A document: its root, unless there is none, and what is behind it. -/
structure Document where
  root : Option Node
  fault : Option Fault := none
  more : Bool := false

/-- A scalar that is not written. -/
def Node.empty (place : Mark) : Node := .scalar { place } "" true

mutual
/-- The number of scalars and aliases and of the beginnings and ends of collections. -/
def Node.size : Node → Nat
  | .scalar .. => 1
  | .alias .. => 1
  | .sequence _ items => 1 + items.size
  | .mapping _ members => 1 + members.size
  | .broken _ => 0
def Items.size : Items → Nat
  | .close => 1
  | .broken _ => 0
  | .item node rest => node.size + rest.size
def Members.size : Members → Nat
  | .close => 1
  | .broken _ => 0
  | .member key value rest => key.size + value.size + rest.size
end

mutual
/-- The nodes with anchors, in the order of the document. -/
def Node.anchored : Node → List (Nat × Node)
  | .scalar properties text plain =>
      match properties.anchor with
      | some number => [(number, .scalar properties text plain)]
      | none => []
  | .sequence properties items =>
      match properties.anchor with
      | some number => (number, .sequence properties items) :: items.anchored
      | none => items.anchored
  | .mapping properties members =>
      match properties.anchor with
      | some number => (number, .mapping properties members) :: members.anchored
      | none => members.anchored
  | .alias .. => []
  | .broken _ => []
def Items.anchored : Items → List (Nat × Node)
  | .close => []
  | .broken _ => []
  | .item node rest => node.anchored ++ rest.anchored
def Members.anchored : Members → List (Nat × Node)
  | .close => []
  | .broken _ => []
  | .member key value rest => key.anchored ++ value.anchored ++ rest.anchored
end

end OperatorConfig.Yaml
