/-
**An order in which every node comes after its successors, or a cycle that forbids one.**

The graph is searched depth first, from the nodes in the order in which they were added and along
the edges in the order in which they were put. A node is pending while it lies on the path from the
start of the search, and done once all its successors are; done nodes make up the order. An edge
into a pending node closes a cycle.

* `Search`: the marks, the path and the order so far.
* `Graph.visit`: the search below one node.
* `Graph.topologicalOrder`: the order of all nodes, or the first cycle met.
-/

import ExtensionHost.Graph.Basic
import ExtensionHost.Text.Arrows

namespace ExtensionHost

/-- A closed path: it starts and ends with the same node. -/
structure Cycle (N : Type) where
  /-- The nodes along the path, the first one repeated at the end. -/
  path : List N
deriving DecidableEq, Repr

/-- The text of the error that a cycle is. -/
def Cycle.message {N : Type} [Text.Labelled N] (cycle : Cycle N) : String :=
  "cycle detected: " ++ Text.arrows (cycle.path.map Text.Labelled.label)

/-- How far the search has come with a node that it has met. -/
inductive Mark where
  /-- The node lies on the path. -/
  | pending
  /-- The node and everything that it leads to are in the order. -/
  | done
deriving DecidableEq, Repr

/-- The state of a depth-first search. -/
structure Search (N : Type) where
  /-- The nodes met so far; the others are unmarked. -/
  marks : Table N Mark := ∅
  /-- The pending nodes, the innermost first. -/
  path : List N := []
  /-- The done nodes, in the order in which they were finished. -/
  order : List N := []

namespace Search

variable {N : Type} [DecidableEq N]

/-- Marks a node as pending and puts it on the path. -/
def enter (search : Search N) (node : N) : Search N :=
  { search with marks := search.marks.insert node .pending, path := node :: search.path }

/-- Takes the innermost node off the path and finishes it. -/
def leave (search : Search N) (node : N) : Search N where
  marks := search.marks.insert node .done
  path := search.path.tail
  order := search.order ++ [node]

/-- The cycle that an edge from the innermost node of the path to a node on the path closes. -/
def cycleAt (search : Search N) (node : N) : Cycle N where
  path := node :: (search.path.takeWhile (· ≠ node)).reverse ++ [node]

end Search

namespace Graph

variable {N : Type} [DecidableEq N]

/-- Searches from one node, where `descend` searches from each of its successors. -/
def explore (graph : Graph N) (descend : N → Search N → Except (Cycle N) (Search N)) (node : N)
    (search : Search N) : Except (Cycle N) (Search N) :=
  match search.marks.get? node with
  | some .done => .ok search
  | some .pending => .error (search.cycleAt node)
  | none => do
    let finished ← (graph.successorsOf node).foldlM (fun search next => descend next search)
      (search.enter node)
    return finished.leave node

/-- Searches from one node, where the path may grow by `room` nodes beyond it. A path without
repetition is never longer than the graph has nodes, so the node count is room enough. -/
def visit (graph : Graph N) : (room : Nat) → N → Search N → Except (Cycle N) (Search N)
  | 0 => graph.explore fun _ search => .ok search
  | room + 1 => graph.explore (graph.visit room)

/-- All nodes, each after its successors, or the first cycle that the search meets. -/
def topologicalOrder (graph : Graph N) : Except (Cycle N) (List N) := do
  let search ← graph.nodes.foldlM (fun search node => graph.visit graph.nodeCount node search) {}
  return search.order

end Graph

end ExtensionHost
