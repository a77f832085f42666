/-
**Directed graphs whose nodes and edges keep the order in which they were added.**

A graph is a table from nodes to their links. Each edge stands twice, once among the successors of
its source and once among the predecessors of its target, and each of these lists is in the order
in which the edges were put.

* `Graph.addNode`, `Graph.putEdge`, `Graph.removeEdge`, `Graph.removeNode`: the changes, each with
  the answer whether the graph is now different.
* `Graph.nodes`, `Graph.edges`, `Graph.successors`, `Graph.predecessors`, `Graph.adjacent`: views.
* `GraphError`: an edge from a node to itself where such edges are refused, and a question about a
  node that is not there.
-/

import ExtensionHost.Table.Basic
import ExtensionHost.Text.Quoted

namespace ExtensionHost

/-- Why a graph refuses a request; the node is given by its name in messages. -/
inductive GraphError where
  /-- The edge would lead from a node to itself. -/
  | selfLoop (node : String)
  /-- The neighbours of a node that is not in the graph were asked for. -/
  | unknownNode (node : String)
deriving DecidableEq, Repr

/-- The text of the error. -/
def GraphError.message : GraphError → String
  | selfLoop node => "self loops are not allowed: " ++ node
  | unknownNode node => node ++ " is not a node of this graph"

/-- The neighbours of one node. -/
structure Links (N : Type) where
  /-- The targets of the edges that leave the node. -/
  successors : List N := []
  /-- The sources of the edges that reach the node. -/
  predecessors : List N := []
deriving DecidableEq

/-- The links without an edge to a node. -/
def Links.withoutSuccessor {N : Type} [DecidableEq N] (node : N) (links : Links N) : Links N :=
  { links with successors := links.successors.filter (· ≠ node) }

/-- The links without an edge from a node. -/
def Links.withoutPredecessor {N : Type} [DecidableEq N] (node : N) (links : Links N) : Links N :=
  { links with predecessors := links.predecessors.filter (· ≠ node) }

/-- A directed edge. -/
structure Edge (N : Type) where
  /-- Where the edge starts. -/
  source : N
  /-- Where the edge ends. -/
  target : N
deriving DecidableEq

/-- The edge in the opposite direction. -/
def Edge.flip {N : Type} (edge : Edge N) : Edge N where
  source := edge.target
  target := edge.source

/-- A directed graph. -/
structure Graph (N : Type) where
  /-- Every node with its neighbours. -/
  links : Table N (Links N) := ∅
  /-- Whether an edge may lead from a node to itself. -/
  allowsSelfLoops : Bool := false

namespace Graph

variable {N : Type}

/-- The nodes, in the order in which they were added. -/
def nodes (graph : Graph N) : List N :=
  graph.links.keys

/-- The edges, grouped by source in node order. -/
def edges (graph : Graph N) : List (Edge N) :=
  graph.links.entries.flatMap fun entry => entry.2.successors.map (Edge.mk entry.1)

/-- The number of nodes. -/
def nodeCount (graph : Graph N) : Nat :=
  graph.links.size

/-- The number of edges. -/
def edgeCount (graph : Graph N) : Nat :=
  (graph.links.values.map fun links => links.successors.length).foldr (· + ·) 0

/-- Whether there are no nodes. -/
def isEmpty (graph : Graph N) : Bool :=
  graph.links.isEmpty

variable [DecidableEq N]

/-- Whether the node is in the graph. -/
def containsNode (graph : Graph N) (node : N) : Bool :=
  graph.links.contains node

/-- The successors of a node; a node that is not there has none. -/
def successorsOf (graph : Graph N) (node : N) : List N :=
  ((graph.links.get? node).map Links.successors).getD []

/-- The predecessors of a node; a node that is not there has none. -/
def predecessorsOf (graph : Graph N) (node : N) : List N :=
  ((graph.links.get? node).map Links.predecessors).getD []

/-- Whether the edge is in the graph. -/
def containsEdge (graph : Graph N) (source target : N) : Bool :=
  target ∈ graph.successorsOf source

/-! ### Changes -/

/-- Adds a node at the end, if it is absent. -/
def addNode (graph : Graph N) (node : N) : Graph N × Bool :=
  if graph.containsNode node then (graph, false)
  else ({ graph with links := graph.links.insert node {} }, true)

/-- Writes an edge whose ends are present into the links of both. -/
def link (graph : Graph N) (source target : N) : Graph N :=
  { graph with
    links := (graph.links.modify source fun links =>
        { links with successors := links.successors ++ [target] }).modify target fun links =>
      { links with predecessors := links.predecessors ++ [source] } }

/-- Deletes an edge from the links of both its ends. -/
def unlink (graph : Graph N) (source target : N) : Graph N :=
  { graph with
    links := (graph.links.modify source (.withoutSuccessor target)).modify target
      (.withoutPredecessor source) }

/-- Adds an edge if it is absent, and before it those of its ends that are absent, the source
first. -/
def putEdge [Text.Labelled N] (graph : Graph N) (source target : N) :
    Except GraphError (Graph N × Bool) :=
  if source = target && !graph.allowsSelfLoops then
    .error (.selfLoop (Text.Labelled.label source))
  else
    let (withSource, newSource) := graph.addNode source
    let (withEnds, newTarget) := withSource.addNode target
    if withEnds.containsEdge source target then .ok (withEnds, newSource || newTarget)
    else .ok (withEnds.link source target, true)

/-- Removes an edge, and keeps its ends. -/
def removeEdge (graph : Graph N) (source target : N) : Graph N × Bool :=
  if graph.containsEdge source target then (graph.unlink source target, true) else (graph, false)

/-- Removes a node with every edge that touches it. Its own links tell which nodes have one. -/
def removeNode (graph : Graph N) (node : N) : Graph N × Bool :=
  match graph.links.get? node with
  | none => (graph, false)
  | some removed =>
    let others := (graph.links.erase node).modifyAll removed.successors (.withoutPredecessor node)
    ({ graph with links := others.modifyAll removed.predecessors (.withoutSuccessor node) }, true)

/-! ### Neighbours -/

/-- The answer to a question about a node, if the node is there. -/
def ask [Text.Labelled N] {α : Type} (graph : Graph N) (node : N) (answer : α) :
    Except GraphError α :=
  if graph.containsNode node then .ok answer
  else .error (.unknownNode (Text.Labelled.label node))

/-- The targets of the edges that leave a node, in the order in which the edges were put. -/
def successors [Text.Labelled N] (graph : Graph N) (node : N) : Except GraphError (List N) :=
  graph.ask node (graph.successorsOf node)

/-- The sources of the edges that reach a node, in the order in which the edges were put. -/
def predecessors [Text.Labelled N] (graph : Graph N) (node : N) : Except GraphError (List N) :=
  graph.ask node (graph.predecessorsOf node)

/-- The predecessors of a node and then its successors, each neighbour once. -/
def adjacent [Text.Labelled N] (graph : Graph N) (node : N) : Except GraphError (List N) :=
  graph.ask node (graph.predecessorsOf node ++ graph.successorsOf node).eraseDups

end Graph

end ExtensionHost
