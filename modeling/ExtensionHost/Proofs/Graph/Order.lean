/-
**The topological order is an order exactly when there is no circle.**

* `Graph.Sorts`: a list of all nodes, each once and after its successors.
* `topologicalOrder_cases`: in a closed graph the search ends with such a list or a closed path.
* `topologicalOrder_decides_circularity`: the same for whatever changes make of an empty graph.
-/

import ExtensionHost.Proofs.Graph.DepthFirst
import ExtensionHost.Proofs.Graph.Representation

namespace ExtensionHost.Graph

open Text (Labelled)

variable {N : Type} [DecidableEq N]

/-- A list of all nodes of a graph, each once and after its successors. -/
structure Sorts (graph : Graph N) (order : List N) : Prop where
  /-- No node is listed twice. -/
  nodup : order.Nodup
  /-- The nodes of the graph are listed, and nothing else. -/
  mem_iff : ∀ node, node ∈ order ↔ node ∈ graph.nodes
  /-- Where an edge leads, stands before where it starts. -/
  precedes : ∀ source target, graph.HasEdge source target → Precedes order target source

theorem Sorts.not_circular {graph : Graph N} {order : List N} (sorts : graph.Sorts order) :
    ¬ Circular graph.HasEdge :=
  not_circular_of_precedes sorts.nodup sorts.precedes

/-- In a closed graph the search ends with all nodes in order, or with a closed path. -/
theorem topologicalOrder_cases {graph : Graph N} (closed : graph.Closed) :
    match graph.topologicalOrder with
    | .ok order => graph.Sorts order
    | .error cycle => ClosedPath graph.HasEdge cycle.path := by
  have searched := roots_continue closed (List.Subset.refl graph.nodes)
  unfold topologicalOrder
  cases ended : graph.nodes.foldlM
      (fun search node => graph.visit graph.nodeCount node search) {} with
  | error cycle =>
    rw [ended] at searched
    exact searched
  | ok search =>
    rw [ended] at searched
    obtain ⟨valid, -, -, found⟩ := searched
    exact {
      nodup := valid.order_nodup
      mem_iff := fun node => ⟨fun member => valid.order_subset member, found node⟩
      precedes := fun source target edge =>
        valid.order_sorted source (found source edge.source_mem) target edge }

/-- **The topological order decides circularity.** Of whatever changes make of an empty graph, there
is an order exactly when no node leads back to itself, and then it lists every node once, after its
successors. -/
theorem topologicalOrder_decides_circularity [Labelled N] (allowsSelfLoops : Bool)
    (changes : List (Change N)) :
    match (ofChanges allowsSelfLoops changes).topologicalOrder with
    | .ok order =>
      ¬ Circular (ofChanges allowsSelfLoops changes).HasEdge ∧
        (ofChanges allowsSelfLoops changes).Sorts order
    | .error _ => Circular (ofChanges allowsSelfLoops changes).HasEdge := by
  have cases := topologicalOrder_cases (closed_ofChanges allowsSelfLoops changes)
  cases ordered : (ofChanges allowsSelfLoops changes).topologicalOrder with
  | ok order =>
    rw [ordered] at cases
    exact ⟨cases.not_circular, cases⟩
  | error cycle =>
    rw [ordered] at cases
    exact cases.circular

/-- A diamond is ordered from its end, the branch that was put first before the other. -/
example : (ofChanges false [.putEdge "a" "b", .putEdge "a" "c", .putEdge "b" "d",
    .putEdge "c" "d"]).topologicalOrder = .ok ["d", "b", "c", "a"] := by
  decide

end ExtensionHost.Graph
