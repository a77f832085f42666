/-
**Nodes: the tree that a YAML document writes.**

* `Properties`: the anchor and the tag of a node.
* `Node`: aliases, scalars, sequences and mappings.
* `Node.anchored`: the nodes that aliases can refer to, in the order of the text.
* `Document`: the root, and the nodes behind the anchors.
-/

import ExtensionHost.Yaml.Token.Basic

namespace ExtensionHost.Yaml

/-- What stands before a node. -/
structure Properties where
  /-- The number of the anchor, if there is one. -/
  anchor : Option Nat := none
  /-- The tag, if there is one. -/
  tag : Option Tag := none
deriving DecidableEq, Repr

/-- A node of a document. -/
inductive Node where
  /-- A reference to the anchor with this number. -/
  | reference (anchor : Nat)
  /-- A scalar. -/
  | scalar (properties : Properties) (style : Style) (text : String)
  /-- A sequence. -/
  | sequence (properties : Properties) (items : List Node)
  /-- A mapping. -/
  | mapping (properties : Properties) (pairs : List (Node × Node))
deriving Repr

instance : Inhabited Node where
  default := .scalar {} .plain ""

namespace Node

/-- The node where nothing is written. -/
def empty : Node :=
  .scalar {} .plain ""

/-- The properties of a node; an alias has none. -/
def properties : Node → Properties
  | reference _ => {}
  | scalar properties _ _ => properties
  | sequence properties _ => properties
  | mapping properties _ => properties

/-- The node with the number of its anchor, if it has one. -/
def named (node : Node) : List (Nat × Node) :=
  match node.properties.anchor with
  | some anchor => [(anchor, node)]
  | none => []

mutual

/-- The nodes with an anchor, with its number, in the order of the text. -/
def anchored : Node → List (Nat × Node)
  | reference _ => []
  | scalar properties style text => (scalar properties style text).named
  | sequence properties items => (sequence properties items).named ++ anchoredItems items
  | mapping properties pairs => (mapping properties pairs).named ++ anchoredPairs pairs

/-- The nodes with an anchor in a list of nodes. -/
def anchoredItems : List Node → List (Nat × Node)
  | [] => []
  | item :: rest => item.anchored ++ anchoredItems rest

/-- The nodes with an anchor in the pairs of a mapping. -/
def anchoredPairs : List (Node × Node) → List (Nat × Node)
  | [] => []
  | (key, value) :: rest => key.anchored ++ value.anchored ++ anchoredPairs rest

end

mutual

/-- The number of scalars and aliases, and of the starts and ends of collections. -/
def weight : Node → Nat
  | reference _ => 1
  | scalar _ _ _ => 1
  | sequence _ items => 2 + weightOfItems items
  | mapping _ pairs => 2 + weightOfPairs pairs

/-- The weight of a list of nodes. -/
def weightOfItems : List Node → Nat
  | [] => 0
  | item :: rest => item.weight + weightOfItems rest

/-- The weight of the pairs of a mapping. -/
def weightOfPairs : List (Node × Node) → Nat
  | [] => 0
  | (key, value) :: rest => key.weight + value.weight + weightOfPairs rest

end

end Node

/-- A document with content. -/
structure Document where
  /-- The root of the tree. -/
  root : Node

/-- The node that an alias refers to: the last in the text that has the anchor's number. -/
def Document.target? (document : Document) (anchor : Nat) : Option Node :=
  ((document.root.anchored.filter fun entry => entry.1 = anchor).getLast?).map Prod.snd

end ExtensionHost.Yaml
