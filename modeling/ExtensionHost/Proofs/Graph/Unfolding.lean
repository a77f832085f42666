/-
**The order has each node where the plain unfolding of the graph has it first.**

To unfold a node is to write down its successors, each of them unfolded, and then the node. Nothing
is remembered on the way, so that what can be reached in several ways is written as often. The
search remembers what it has finished, and writes each node once.

* `Graph.unfold`, `Graph.unfolding`: the unfolding of a node, along paths that are long enough.
* `unfold_succ_eq`, `unfolding_eq`: where there is an order, longer paths bring nothing more.
* `Search.Writes`: what a search has finished since, without repetition.
* `visit_writes`: the search below one node finishes its unfolding.
* `topologicalOrder_eq_unfoldings`: the order of all nodes.
-/

import ExtensionHost.Proofs.Graph.Listing
import ExtensionHost.Proofs.Graph.Order

namespace ExtensionHost

open Relation (ReflTransGen)
open Text (Labelled)

/-! ### First occurrences -/

section FirstOccurrences

variable {A : Type} [DecidableEq A]

theorem mem_foldl_appendNew {list more : List A} {element : A} :
    element ∈ more.foldl appendNew list ↔ element ∈ list ∨ element ∈ more := by
  induction more generalizing list with
  | nil => simp
  | cons first rest ih =>
    rw [List.foldl_cons, ih, mem_appendNew, List.mem_cons, or_assoc, or_left_comm]

theorem foldl_appendNew_of_subset {list more : List A} (known : more ⊆ list) :
    more.foldl appendNew list = list := by
  induction more with
  | nil => rfl
  | cons first rest ih =>
    obtain ⟨present, others⟩ := List.cons_subset.mp known
    rw [List.foldl_cons, appendNew_eq_self_iff.mpr present, ih others]

/-- To append what is new, one after the other, is to keep first occurrences. -/
theorem foldl_appendNew_nil (list : List A) : list.foldl appendNew [] = list.eraseDups := by
  induction list using List.reverseRecOn with
  | nil => rfl
  | append_singleton rest last ih =>
    rw [List.foldl_append, ih, eraseDups_concat]
    rfl

end FirstOccurrences

variable {N : Type} [DecidableEq N]

namespace Graph

variable {graph : Graph N} {order : List N} {node : N}

/-! ### Unfolding -/

/-- A node after everything that it leads to along paths of at most `room` edges. -/
def unfold (graph : Graph N) : (room : Nat) → N → List N
  | 0, node => [node]
  | room + 1, node => (graph.successorsOf node).flatMap (graph.unfold room) ++ [node]

/-- A node after everything that it leads to. A path without repetition is never longer than the
graph has nodes. -/
def unfolding (graph : Graph N) (node : N) : List N :=
  graph.unfold graph.nodeCount node

theorem mem_unfold_self (room : Nat) (node : N) : node ∈ graph.unfold room node := by
  cases room with
  | zero => exact List.mem_singleton_self node
  | succ room => exact List.mem_append_right _ (List.mem_singleton_self node)

theorem reflTransGen_of_mem_unfold {room : Nat} {met : N} (member : met ∈ graph.unfold room node) :
    ReflTransGen graph.HasEdge node met := by
  induction room generalizing node with
  | zero =>
    rw [List.mem_singleton.mp member]
  | succ room ih =>
    rcases List.mem_append.mp member with below | own
    · obtain ⟨target, edge, beyond⟩ := List.mem_flatMap.mp below
      exact .head edge (ih beyond)
    · rw [List.mem_singleton.mp own]

theorem Sorts.idxOf_lt (sorts : graph.Sorts order) {target : N} (edge : graph.HasEdge node target) :
    order.idxOf target < order.idxOf node := by
  obtain ⟨before, after, rfl, early, late⟩ :=
    Precedes.iff_split.mp (sorts.precedes node target edge)
  have absent : node ∉ before := fun member =>
    List.disjoint_of_nodup_append sorts.nodup member late
  rw [List.idxOf_append_of_mem early, List.idxOf_append_of_notMem absent]
  exact Nat.lt_add_right _ (List.idxOf_lt_length_iff.mpr early)

/-- With an order, the place of a node in it bounds the paths that leave the node. -/
theorem unfold_succ_eq (sorts : graph.Sorts order) {room : Nat} (enough : order.idxOf node ≤ room) :
    graph.unfold (room + 1) node = graph.unfold room node := by
  induction room generalizing node with
  | zero =>
    have last : graph.successorsOf node = [] :=
      List.eq_nil_iff_forall_not_mem.mpr fun target edge =>
        absurd (sorts.idxOf_lt edge) (by omega)
    show (graph.successorsOf node).flatMap (graph.unfold 0) ++ [node] = [node]
    rw [last]
    rfl
  | succ room ih =>
    refine congrArg (· ++ [node]) (List.flatMap_congr fun target edge => ih ?_)
    have earlier := sorts.idxOf_lt edge
    omega

theorem unfolding_eq (sorts : graph.Sorts order) (node : N) :
    graph.unfolding node =
      (graph.successorsOf node).flatMap graph.unfolding ++ [node] := by
  have listed : order.length ≤ graph.nodeCount := by
    have subperm := List.subperm_of_subset sorts.nodup fun node => (sorts.mem_iff node).mp
    simpa [nodes, Table.keys, nodeCount, Table.size] using subperm.length_le
  exact (unfold_succ_eq sorts (List.idxOf_le_length.trans listed)).symm

end Graph

/-! ### What the search writes -/

section

variable {graph : Graph N} {search middle later : Search N} {node : N}

/-- The later search has finished these nodes since, each where it comes first, and is back on the
same path. -/
structure Search.Writes (graph : Graph N) (search : Search N) (written : List N)
    (later : Search N) : Prop where
  valid : later.Valid graph
  path : later.path = search.path
  order : later.order = written.foldl appendNew search.order

namespace Search

theorem Writes.refl (valid : search.Valid graph) {written : List N}
    (known : written ⊆ search.order) : search.Writes graph written search where
  valid := valid
  path := rfl
  order := (foldl_appendNew_of_subset known).symm

theorem Writes.trans {first second : List N} (early : search.Writes graph first middle)
    (late : middle.Writes graph second later) : search.Writes graph (first ++ second) later where
  valid := late.valid
  path := late.path.trans early.path
  order := by
    rw [late.order, early.order, List.foldl_append]

/-- What is finished leads to nothing that is not. -/
theorem Valid.mem_order_of_reflTransGen (valid : search.Valid graph) {met : N}
    (finished : node ∈ search.order) (path : ReflTransGen graph.HasEdge node met) :
    met ∈ search.order := by
  induction path with
  | refl => exact finished
  | tail _ edge ih => exact (valid.order_sorted _ ih _ edge).subset List.mem_cons_self

/-- The node itself is written when all that it leads to has been. -/
theorem Writes.leave (writes : (search.enter node).Writes graph
      ((graph.successorsOf node).flatMap graph.unfolding) later)
    (unfolds : graph.unfolding node =
      (graph.successorsOf node).flatMap graph.unfolding ++ [node]) :
    search.Writes graph (graph.unfolding node) (later.leave node) := by
  have innermost : later.path = node :: search.path := writes.path
  have order : later.order =
      ((graph.successorsOf node).flatMap graph.unfolding).foldl appendNew search.order :=
    writes.order
  have finished : ∀ target, graph.HasEdge node target → target ∈ later.order := by
    intro target edge
    rw [order, mem_foldl_appendNew]
    exact .inr (List.mem_flatMap.mpr ⟨target, edge, Graph.mem_unfold_self _ target⟩)
  have left := writes.valid.leave innermost finished
  have fresh : node ∉ later.order := fun member =>
    List.disjoint_of_nodup_append left.order_nodup member (List.mem_singleton_self node)
  refine ⟨left, ?_, ?_⟩
  · show later.path.tail = search.path
    rw [innermost]
    rfl
  · rw [unfolds, List.foldl_append, ← order, List.foldl_cons, appendNew, if_neg fresh]
    rfl

end Search

namespace Graph

/-- Searches one after the other write one after the other. -/
theorem visits_write {descend : N → Search N → Except (Cycle N) (Search N)} {targets : List N}
    (each : ∀ target ∈ targets, ∀ middle later : Search N, middle.Valid graph →
      middle.path = search.path → descend target middle = .ok later →
        middle.Writes graph (graph.unfolding target) later)
    (valid : search.Valid graph)
    (ended : targets.foldlM (fun search target => descend target search) search = .ok later) :
    search.Writes graph (targets.flatMap graph.unfolding) later := by
  induction targets generalizing search with
  | nil =>
    cases ended
    exact .refl valid (List.nil_subset _)
  | cons target rest ih =>
    rw [List.foldlM_cons] at ended
    cases reached : descend target search with
    | error cycle =>
      rw [reached] at ended
      cases ended
    | ok middle =>
      rw [reached] at ended
      have first := each target List.mem_cons_self search middle valid rfl reached
      exact first.trans (ih (fun other member between last between_valid between_path =>
        each other (List.mem_cons_of_mem _ member) between last between_valid
          (between_path.trans first.path)) first.valid ended)

/-- The search below one node, where the searches below its successors write their unfoldings. -/
theorem explore_writes {descend : N → Search N → Except (Cycle N) (Search N)}
    (unfolds : graph.unfolding node =
      (graph.successorsOf node).flatMap graph.unfolding ++ [node])
    (each : ∀ target, graph.HasEdge node target → ∀ middle later : Search N, middle.Valid graph →
      middle.path = node :: search.path → descend target middle = .ok later →
        middle.Writes graph (graph.unfolding target) later)
    (valid : search.Valid graph) (member : node ∈ graph.nodes)
    (leads : (node :: search.path).IsChain fun inner outer => graph.HasEdge outer inner)
    (ended : graph.explore descend node search = .ok later) :
    search.Writes graph (graph.unfolding node) later := by
  unfold explore at ended
  cases marked : search.marks.get? node with
  | some mark =>
    rw [marked] at ended
    cases mark with
    | pending => cases ended
    | done =>
      cases ended
      have finished := (valid.done_iff node).mp marked
      exact .refl valid fun met below =>
        valid.mem_order_of_reflTransGen finished (reflTransGen_of_mem_unfold below)
  | none =>
    rw [marked] at ended
    dsimp only at ended
    cases below : (graph.successorsOf node).foldlM (fun search next => descend next search)
        (search.enter node) with
    | error cycle =>
      rw [below] at ended
      cases ended
    | ok finished =>
      rw [below] at ended
      cases ended
      have writes := visits_write each (valid.enter marked member leads) below
      exact writes.leave unfolds

/-- **The search below one node writes its unfolding**, as far as it is not written yet. -/
theorem visit_writes (closed : graph.Closed)
    (unfolds : ∀ node, graph.unfolding node =
      (graph.successorsOf node).flatMap graph.unfolding ++ [node])
    (room : Nat) (valid : search.Valid graph)
    (enough : graph.nodeCount ≤ room + search.path.length) (member : node ∈ graph.nodes)
    (leads : (node :: search.path).IsChain fun inner outer => graph.HasEdge outer inner)
    (ended : graph.visit room node search = .ok later) :
    search.Writes graph (graph.unfolding node) later := by
  induction room generalizing search node later with
  | zero =>
    -- without room every node is pending, and the search does not end below one
    have pending := valid.mem_path_of_full (by simpa using enough) member
    have marked := (valid.pending_iff node).mpr pending
    unfold visit explore at ended
    rw [marked] at ended
    cases ended
  | succ room ih =>
    refine explore_writes (unfolds node)
      (fun target edge middle last middle_valid middle_path => ?_)
      valid member leads ended
    refine ih middle_valid ?_ (closed node target edge) ?_
    · rw [middle_path, List.length_cons]
      omega
    · rw [middle_path]
      exact List.isChain_cons_cons.mpr ⟨edge, leads⟩

/-- **The topological order has each node where the unfoldings have it first.** Of whatever changes
make of an empty graph, if no node leads back to itself, then the unfolding of a node is that of its
successors, one after the other, and then the node; and the order is what is left of the unfoldings
of all nodes when only the first occurrence of each node is kept. -/
theorem topologicalOrder_eq_unfoldings [Labelled N] (allowsSelfLoops : Bool)
    (changes : List (Change N))
    (acyclic : ¬ Circular (ofChanges allowsSelfLoops changes).HasEdge) :
    let graph := ofChanges allowsSelfLoops changes
    (∀ node, graph.unfolding node =
      (graph.successorsOf node).flatMap graph.unfolding ++ [node]) ∧
    graph.topologicalOrder = .ok (graph.nodes.flatMap graph.unfolding).eraseDups := by
  intro graph
  have closed : graph.Closed := closed_ofChanges allowsSelfLoops changes
  have cases := topologicalOrder_cases closed
  cases ordered : graph.topologicalOrder with
  | error cycle =>
    rw [ordered] at cases
    exact absurd cases.circular acyclic
  | ok order =>
    rw [ordered] at cases
    have unfolds := unfolding_eq cases
    refine ⟨unfolds, ?_⟩
    unfold topologicalOrder at ordered
    cases ended : graph.nodes.foldlM (fun search node => graph.visit graph.nodeCount node search)
        ({} : Search N) with
    | error cycle =>
      rw [ended] at ordered
      cases ordered
    | ok search =>
      rw [ended] at ordered
      cases ordered
      have writes := visits_write (fun node member middle later valid path reached =>
        visit_writes closed unfolds graph.nodeCount valid (Nat.le_add_right _ _) member
          (path ▸ List.isChain_singleton node) reached) Search.Valid.empty ended
      exact congrArg Except.ok (writes.order.trans (foldl_appendNew_nil _))

end Graph

end

/-! ### Nodes that are reached in several ways -/

namespace Shared

/-- Both branches of a diamond lead to its end. One of them also led to a node that has been
removed, and another node leads to the end and to the whole diamond. -/
def changes : List (Graph.Change String) :=
  [.putEdge "c" "e", .putEdge "a" "b", .putEdge "a" "c", .putEdge "c" "d", .putEdge "b" "d",
    .removeNode "e", .putEdge "f" "d", .putEdge "f" "a"]

def graph : Graph String :=
  .ofChanges false changes

/-- The end of the diamond is written eight times, and stands in the order once. -/
theorem order_shared :
    graph.nodes = ["c", "a", "b", "d", "f"] ∧ ¬ Circular graph.HasEdge ∧
      graph.unfolding "f" = ["d", "a"].flatMap graph.unfolding ++ ["f"] ∧
      (graph.nodes.flatMap graph.unfolding).count "d" = 8 ∧
      graph.topologicalOrder = .ok ["d", "c", "b", "a", "f"] := by
  have acyclic : ¬ Circular graph.HasEdge := by
    have cases := Graph.topologicalOrder_cases (Graph.closed_ofChanges false changes)
    have ordered : (Graph.ofChanges false changes).topologicalOrder =
        .ok ["d", "c", "b", "a", "f"] := by decide
    rw [ordered] at cases
    exact cases.not_circular
  obtain ⟨unfolds, order⟩ := Graph.topologicalOrder_eq_unfoldings false changes acyclic
  have written : (graph.nodes.flatMap graph.unfolding).eraseDups = ["d", "c", "b", "a", "f"] := by
    decide
  refine ⟨by decide, acyclic, unfolds "f", by decide, ?_⟩
  rw [← written]
  exact order

end Shared

end ExtensionHost
