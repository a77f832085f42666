/-
**The topological order is told by the nodes and their successors.**

The search reads nothing else of a graph, so that two graphs that agree on them have the same order
or the same cycle.

* `topologicalOrder_congr`: the order of graphs that agree.
* `successorsOf_withEdges`: edges that are put between present nodes bring each target once, in the
  order in which they came.
-/

import ExtensionHost.Proofs.Graph.Listing
import Mathlib.Data.List.Induction

namespace ExtensionHost.Graph

variable {N : Type} [DecidableEq N] {graph other : Graph N}

/-! ### Graphs that agree -/

theorem explore_congr (successors : ∀ node, other.successorsOf node = graph.successorsOf node)
    (descend : N → Search N → Except (Cycle N) (Search N)) :
    other.explore descend = graph.explore descend := by
  funext node search
  unfold explore
  rw [successors]

theorem visit_congr (successors : ∀ node, other.successorsOf node = graph.successorsOf node)
    (room : Nat) : other.visit room = graph.visit room := by
  induction room with
  | zero => exact explore_congr successors _
  | succ room ih =>
    unfold visit
    rw [ih, explore_congr successors]

/-- Graphs with the same nodes, in the same order, and the same successors of each, have the same
order or the same cycle. -/
theorem topologicalOrder_congr (nodes : other.nodes = graph.nodes)
    (successors : ∀ node, other.successorsOf node = graph.successorsOf node) :
    other.topologicalOrder = graph.topologicalOrder := by
  have count : other.nodeCount = graph.nodeCount := by
    have lengths := congrArg List.length nodes
    simpa only [Graph.nodes, Table.keys, nodeCount, Table.size, List.length_map] using lengths
  unfold topologicalOrder
  rw [nodes, count, visit_congr successors]

/-! ### Many edges -/

theorem withEdges_concat (graph : Graph N) (pairs : List (N × N)) (last : N × N) :
    graph.withEdges (pairs ++ [last]) = (graph.withEdges pairs).extended last.1 last.2 := by
  unfold withEdges
  rw [List.foldl_append, List.foldl_cons, List.foldl_nil]

/-- Where there were no edges, the targets of a node are its successors, each once and in the order
in which the edges came. -/
theorem successorsOf_withEdges (bare : ∀ node, graph.successorsOf node = [])
    (pairs : List (N × N)) (node : N) :
    (graph.withEdges pairs).successorsOf node =
      ((pairs.filter (·.1 = node)).map Prod.snd).eraseDups := by
  induction pairs using List.reverseRecOn with
  | nil => exact bare node
  | append_singleton earlier last ih =>
    rw [withEdges_concat, successorsOf_extended, List.filter_append, List.map_append]
    by_cases source : last.1 = node
    · have own : ([last].filter (·.1 = node)).map Prod.snd = [last.2] := by simp [source]
      have known : (graph.withEdges earlier).HasEdge node last.2 ↔
          last.2 ∈ ((earlier.filter (·.1 = node)).map Prod.snd).eraseDups := by
        unfold HasEdge
        rw [ih]
      rw [own, eraseDups_concat, ih, source]
      unfold appendNew
      by_cases present : last.2 ∈ ((earlier.filter (·.1 = node)).map Prod.snd).eraseDups
      · rw [if_pos present, if_neg fun absent => absent.2 (known.mpr present)]
      · rw [if_neg present, if_pos ⟨rfl, mt known.mp present⟩]
    · have none : ([last].filter (·.1 = node)).map Prod.snd = [] := by simp [source]
      rw [none, List.append_nil, if_neg fun own => source own.1.symm, ih]

end ExtensionHost.Graph
