/-
**The depth-first search keeps its marks, its path and its order in step.**

* `Search.Valid`: what holds of a search between any two of its steps. The pending nodes are those
  on the path, the done ones those in the order; the path runs along edges and repeats nothing; in
  the order every node comes after its successors.
* `Graph.Continues`: what may become of a search that is to finish some nodes. Either it ends with
  all of them in the order and the path as before, or with a closed path.
* `visit_continues`: the search below one node, with room for all nodes that are not on the path.
* `visits_continue`, `roots_continue`: the searches below several nodes, one after the other.
-/

import ExtensionHost.Proofs.Graph.Changes
import ExtensionHost.Proofs.Graph.Circular
import Mathlib.Data.List.Perm.Subperm

namespace ExtensionHost

variable {N : Type} [DecidableEq N] {graph : Graph N} {search : Search N} {node : N}

/-- What holds of a search in a graph between any two of its steps. -/
structure Search.Valid (graph : Graph N) (search : Search N) : Prop where
  /-- The pending nodes are those on the path. -/
  pending_iff : ∀ node, search.marks.get? node = some .pending ↔ node ∈ search.path
  /-- The done nodes are those in the order. -/
  done_iff : ∀ node, search.marks.get? node = some .done ↔ node ∈ search.order
  /-- No node is on the path twice. -/
  path_nodup : search.path.Nodup
  /-- From the start of the search on, each node of the path leads to the next. -/
  path_chain : search.path.IsChain fun inner outer => graph.HasEdge outer inner
  /-- The path lies in the graph. -/
  path_subset : search.path ⊆ graph.nodes
  /-- No node is in the order twice. -/
  order_nodup : search.order.Nodup
  /-- The order holds nodes of the graph. -/
  order_subset : search.order ⊆ graph.nodes
  /-- Each node of the order comes after all its successors. -/
  order_sorted : ∀ source ∈ search.order, ∀ target, graph.HasEdge source target →
    Precedes search.order target source

/-- The cycle at a node of the path goes from the node on to the end of the path, and back. -/
theorem Search.path_cycleAt {inner outer : List N} (search : Search N)
    (shape : search.path = inner ++ node :: outer) (notInner : node ∉ inner) :
    (search.cycleAt node).path = node :: inner.reverse ++ [node] := by
  have inner_ne : ∀ other ∈ inner, decide (other ≠ node) = true := by
    intro other member
    rw [decide_eq_true_iff]
    rintro rfl
    exact notInner member
  show node :: (search.path.takeWhile (· ≠ node)).reverse ++ [node] = _
  rw [shape, List.takeWhile_append_of_pos inner_ne]
  simp

namespace Search.Valid

theorem empty : Search.Valid graph ({} : Search N) where
  pending_iff node := by simp
  done_iff node := by simp
  path_nodup := List.nodup_nil
  path_chain := List.isChain_nil
  path_subset := List.nil_subset _
  order_nodup := List.nodup_nil
  order_subset := List.nil_subset _
  order_sorted source member := by cases member

/-- When the path is as long as the graph has nodes, all nodes are on it. -/
theorem mem_path_of_full (valid : search.Valid graph) (full : graph.nodeCount ≤ search.path.length)
    (member : node ∈ graph.nodes) : node ∈ search.path := by
  have subperm := List.subperm_of_subset valid.path_nodup valid.path_subset
  have perm := subperm.perm_of_length_le (by
    simpa [Graph.nodes, Table.keys, Graph.nodeCount, Table.size] using full)
  exact perm.mem_iff.mpr member

/-- Entering an unmarked node to which the path leads. -/
theorem enter (valid : search.Valid graph) (unmarked : search.marks.get? node = none)
    (member : node ∈ graph.nodes)
    (leads : (node :: search.path).IsChain fun inner outer => graph.HasEdge outer inner) :
    (search.enter node).Valid graph where
  pending_iff other := by
    show (search.marks.insert node .pending).get? other = some .pending ↔
      other ∈ node :: search.path
    rw [Table.get?_insert, List.mem_cons]
    by_cases same : other = node
    · simp [same]
    · simp [same, valid.pending_iff]
  done_iff other := by
    show (search.marks.insert node .pending).get? other = some .done ↔ other ∈ search.order
    rw [Table.get?_insert, ← valid.done_iff]
    by_cases same : other = node
    · subst same
      simp [unmarked]
    · simp [same]
  path_nodup := by
    refine List.nodup_cons.mpr ⟨fun onPath => ?_, valid.path_nodup⟩
    have pending := (valid.pending_iff node).mpr onPath
    rw [unmarked] at pending
    cases pending
  path_chain := leads
  path_subset := List.cons_subset.mpr ⟨member, valid.path_subset⟩
  order_nodup := valid.order_nodup
  order_subset := valid.order_subset
  order_sorted := valid.order_sorted

/-- Leaving the innermost node of the path once all its successors are in the order. -/
theorem leave {outer : List N} (valid : search.Valid graph)
    (innermost : search.path = node :: outer)
    (finished : ∀ target, graph.HasEdge node target → target ∈ search.order) :
    (search.leave node).Valid graph := by
  have shape := innermost ▸ valid.path_nodup
  obtain ⟨notOuter, outer_nodup⟩ := List.nodup_cons.mp shape
  have pending : search.marks.get? node = some .pending :=
    (valid.pending_iff node).mpr (by rw [innermost]; exact List.mem_cons_self)
  have notDone : node ∉ search.order := by
    intro done
    have marked := (valid.done_iff node).mpr done
    rw [pending] at marked
    cases marked
  have path_eq : (search.leave node).path = outer := by
    show search.path.tail = outer
    rw [innermost]
    rfl
  refine ⟨fun other => ?_, fun other => ?_, ?_, ?_, ?_, ?_, ?_, ?_⟩
  · rw [path_eq]
    show (search.marks.insert node .done).get? other = some .pending ↔ other ∈ outer
    rw [Table.get?_insert]
    by_cases same : other = node
    · subst same
      simp [notOuter]
    · rw [if_neg same, valid.pending_iff, innermost, List.mem_cons]
      simp [same]
  · show (search.marks.insert node .done).get? other = some .done ↔ other ∈ search.order ++ [node]
    rw [Table.get?_insert, List.mem_append, List.mem_singleton]
    by_cases same : other = node
    · simp [same]
    · simp [same, valid.done_iff]
  · rw [path_eq]
    exact outer_nodup
  · rw [path_eq]
    exact (innermost ▸ valid.path_chain).tail
  · rw [path_eq]
    exact (List.cons_subset.mp (innermost ▸ valid.path_subset)).2
  · exact List.nodup_append.mpr ⟨valid.order_nodup, List.nodup_singleton node, by
      intro first inOrder second isNode equal
      rw [List.mem_singleton] at isNode
      exact notDone (isNode ▸ equal ▸ inOrder)⟩
  · refine List.append_subset.mpr ⟨valid.order_subset, ?_⟩
    intro other isNode
    rw [List.mem_singleton] at isNode
    exact valid.path_subset (by rw [innermost, isNode]; exact List.mem_cons_self)
  · intro source member target edge
    rcases List.mem_append.mp member with old | new
    · exact (valid.order_sorted source old target edge).of_shorter (List.prefix_append _ _)
    · rw [List.mem_singleton] at new
      subst new
      exact Precedes.snoc (finished target edge)

/-- An edge from the innermost node of the path to a node on the path closes a path. -/
theorem closedPath (valid : search.Valid graph) (pending : node ∈ search.path)
    (leads : (node :: search.path).IsChain fun inner outer => graph.HasEdge outer inner) :
    ClosedPath graph.HasEdge (search.cycleAt node).path := by
  obtain ⟨inner, outer, shape, notInner⟩ := List.eq_append_cons_of_mem pending
  have cycle_eq := search.path_cycleAt shape notInner
  have inner_nodup : inner.Nodup :=
    (shape ▸ valid.path_nodup).sublist (List.sublist_append_left _ _)
  refine ⟨node, inner.reverse, cycle_eq, ?_, ?_⟩
  · rw [List.nodup_cons, List.mem_reverse, List.nodup_reverse]
    exact ⟨notInner, inner_nodup⟩
  · have backwards : node :: inner.reverse ++ [node] = (node :: inner ++ [node]).reverse := by simp
    rw [cycle_eq, backwards, List.isChain_reverse]
    have whole : node :: search.path = (node :: inner ++ [node]) ++ outer := by simp [shape]
    rw [whole] at leads
    exact leads.left_of_append

end Search.Valid

namespace Graph

/-- What may become of a search that is to finish the given nodes: a search with all of them in its
order, or a closed path. -/
def Continues (graph : Graph N) (search : Search N) (targets : List N) :
    Except (Cycle N) (Search N) → Prop
  | .ok later =>
    later.Valid graph ∧ later.path = search.path ∧ search.order <+: later.order ∧
      ∀ target ∈ targets, target ∈ later.order
  | .error cycle => ClosedPath graph.HasEdge cycle.path

/-- Searches that go on one after the other from a path. -/
theorem visits_continue {descend : N → Search N → Except (Cycle N) (Search N)} (targets : List N)
    (each : ∀ target ∈ targets, ∀ later : Search N, later.Valid graph → later.path = search.path →
      graph.Continues later [target] (descend target later)) (valid : search.Valid graph) :
    graph.Continues search targets
      (targets.foldlM (fun search target => descend target search) search) := by
  induction targets generalizing search with
  | nil => exact ⟨valid, rfl, List.prefix_refl _, fun _ member => by cases member⟩
  | cons target rest ih =>
    have first := each target List.mem_cons_self search valid rfl
    rw [List.foldlM_cons]
    cases reached : descend target search with
    | error cycle =>
      rw [reached] at first
      exact first
    | ok middle =>
      rw [reached] at first
      obtain ⟨middle_valid, middle_path, middle_order, found⟩ := first
      have others := @ih middle (fun other member later later_valid later_path =>
        each other (List.mem_cons_of_mem _ member) later later_valid
          (later_path.trans middle_path)) middle_valid
      show graph.Continues search (target :: rest)
        (rest.foldlM (fun search target => descend target search) middle)
      cases ended : rest.foldlM (fun search target => descend target search) middle with
      | error cycle =>
        rw [ended] at others
        exact others
      | ok later =>
        rw [ended] at others
        obtain ⟨later_valid, later_path, later_order, rest_found⟩ := others
        refine ⟨later_valid, later_path.trans middle_path, middle_order.trans later_order, ?_⟩
        intro other member
        rcases List.mem_cons.mp member with rfl | member
        · exact later_order.subset (found other (List.mem_singleton_self other))
        · exact rest_found other member

/-- The search below one node, where the searches below its successors are known to go on. -/
theorem explore_continues {descend : N → Search N → Except (Cycle N) (Search N)}
    (each : ∀ target, graph.HasEdge node target → ∀ later : Search N, later.Valid graph →
      later.path = node :: search.path → graph.Continues later [target] (descend target later))
    (valid : search.Valid graph) (member : node ∈ graph.nodes)
    (leads : (node :: search.path).IsChain fun inner outer => graph.HasEdge outer inner) :
    graph.Continues search [node] (graph.explore descend node search) := by
  unfold explore
  cases marked : search.marks.get? node with
  | some mark =>
    cases mark with
    | done =>
      refine ⟨valid, rfl, List.prefix_refl _, fun other isNode => ?_⟩
      rw [List.mem_singleton.mp isNode]
      exact (valid.done_iff node).mp marked
    | pending => exact valid.closedPath ((valid.pending_iff node).mp marked) leads
  | none =>
    have entered := valid.enter marked member leads
    have below := visits_continue (graph.successorsOf node)
      (fun target edge later later_valid later_path =>
        each target edge later later_valid later_path)
      entered
    show graph.Continues search [node]
      ((graph.successorsOf node).foldlM (fun search next => descend next search)
        (search.enter node) >>= fun finished => pure (finished.leave node))
    cases ended : (graph.successorsOf node).foldlM (fun search next => descend next search)
        (search.enter node) with
    | error cycle =>
      rw [ended] at below
      exact below
    | ok finished =>
      rw [ended] at below
      obtain ⟨finished_valid, finished_path, grown, all_found⟩ := below
      have left := finished_valid.leave finished_path all_found
      refine ⟨left, ?_, grown.trans (List.prefix_append _ _), fun other isNode => ?_⟩
      · show finished.path.tail = search.path
        rw [finished_path]
        rfl
      · rw [List.mem_singleton.mp isNode]
        exact List.mem_append_right _ (List.mem_singleton_self node)

/-- **The search below one node.** With room for all nodes that are not on the path, it ends with
the node in the order, or with a closed path. -/
theorem visit_continues (closed : graph.Closed) (room : Nat) (valid : search.Valid graph)
    (enough : graph.nodeCount ≤ room + search.path.length) (member : node ∈ graph.nodes)
    (leads : (node :: search.path).IsChain fun inner outer => graph.HasEdge outer inner) :
    graph.Continues search [node] (graph.visit room node search) := by
  induction room generalizing search node with
  | zero =>
    -- Without room every node is on the path, and nothing is searched below a pending node.
    have pending := valid.mem_path_of_full (by simpa using enough) member
    have marked := (valid.pending_iff node).mpr pending
    unfold visit explore
    rw [marked]
    exact valid.closedPath pending leads
  | succ room ih =>
    refine explore_continues (fun target edge later later_valid later_path => ?_) valid member leads
    refine ih later_valid ?_ (closed node target edge) ?_
    · rw [later_path, List.length_cons]
      omega
    · rw [later_path]
      exact List.isChain_cons_cons.mpr ⟨edge, leads⟩

/-- The searches from several nodes of the graph, one after the other. -/
theorem roots_continue (closed : graph.Closed) {roots : List N} (known : roots ⊆ graph.nodes) :
    graph.Continues {} roots
      (roots.foldlM (fun search node => graph.visit graph.nodeCount node search) {}) := by
  refine visits_continue roots (fun node member later valid path_eq => ?_) Search.Valid.empty
  refine visit_continues closed graph.nodeCount valid (Nat.le_add_right _ _) (known member) ?_
  rw [path_eq]
  exact List.isChain_singleton node

end Graph

end ExtensionHost
