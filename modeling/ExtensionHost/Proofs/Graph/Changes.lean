/-
**What the changes of a graph do to its nodes and successors.**

* `Graph.HasEdge`: the edges as a relation.
* `Graph.Change`, `Graph.ofChanges`: changes as data, and the graphs that they build from nothing.
* `nodes_addNode`, `successorsOf_addNode`, `hasEdge_extended`: what is there after a node or an edge
  was added.
* `Graph.withNodes`, `Graph.withEdges`: many nodes or many edges, one after the other.
* `Graph.Closed`: every edge ends at a node of the graph.
-/

import ExtensionHost.Graph.Order
import ExtensionHost.Table.Lemmas
import Mathlib.Data.List.Nodup

namespace ExtensionHost.Graph

open Text (Labelled)

variable {N : Type} [DecidableEq N]

/-- The edges of a graph, as a relation. -/
def HasEdge (graph : Graph N) (source target : N) : Prop :=
  target ∈ graph.successorsOf source

instance (graph : Graph N) (source target : N) : Decidable (graph.HasEdge source target) :=
  inferInstanceAs (Decidable (target ∈ graph.successorsOf source))

theorem containsEdge_iff {graph : Graph N} {source target : N} :
    graph.containsEdge source target = true ↔ graph.HasEdge source target := by
  unfold containsEdge HasEdge
  exact decide_eq_true_iff

theorem containsNode_iff {graph : Graph N} {node : N} :
    graph.containsNode node = true ↔ node ∈ graph.nodes :=
  Table.contains_iff

/-! ### Changes as data -/

/-- A change of a graph. -/
inductive Change (N : Type) where
  /-- A node is added. -/
  | addNode (node : N)
  /-- An edge is put. -/
  | putEdge (source target : N)
  /-- An edge is removed. -/
  | removeEdge (source target : N)
  /-- A node is removed. -/
  | removeNode (node : N)
deriving DecidableEq, Repr

/-- The graph after a change; an edge that is refused changes nothing. -/
def apply [Labelled N] (graph : Graph N) : Change N → Graph N
  | .addNode node => (graph.addNode node).1
  | .putEdge source target =>
    match graph.putEdge source target with
    | .ok (changed, _) => changed
    | .error _ => graph
  | .removeEdge source target => (graph.removeEdge source target).1
  | .removeNode node => (graph.removeNode node).1

/-- The graph that changes make of an empty one. -/
def ofChanges [Labelled N] (allowsSelfLoops : Bool) (changes : List (Change N)) : Graph N :=
  changes.foldl apply { allowsSelfLoops }

/-! ### Adding nodes -/

@[simp] theorem nodes_addNode (graph : Graph N) (node : N) :
    (graph.addNode node).1.nodes =
      if node ∈ graph.nodes then graph.nodes else graph.nodes ++ [node] := by
  unfold addNode
  by_cases present : node ∈ graph.nodes
  · rw [if_pos (containsNode_iff.mpr present), if_pos present]
  · rw [if_neg (mt containsNode_iff.mp present), if_neg present]
    show (graph.links.insert node {}).keys = graph.links.keys ++ [node]
    rw [Table.keys_insert]
    exact if_neg present

@[simp] theorem successorsOf_addNode (graph : Graph N) (node other : N) :
    (graph.addNode node).1.successorsOf other = graph.successorsOf other := by
  unfold addNode
  by_cases present : node ∈ graph.nodes
  · rw [if_pos (containsNode_iff.mpr present)]
  · rw [if_neg (mt containsNode_iff.mp present)]
    simp only [successorsOf, Table.get?_insert]
    by_cases same : other = node
    · subst same
      have absent : graph.links.get? other = none := Table.get?_eq_none_iff.mpr present
      simp [absent]
    · rw [if_neg same]

@[simp] theorem allowsSelfLoops_addNode (graph : Graph N) (node : N) :
    (graph.addNode node).1.allowsSelfLoops = graph.allowsSelfLoops := by
  unfold addNode
  split <;> rfl

theorem mem_nodes_addNode {graph : Graph N} {node other : N} :
    other ∈ (graph.addNode node).1.nodes ↔ other = node ∨ other ∈ graph.nodes := by
  rw [nodes_addNode]
  split
  · rename_i present
    constructor
    · exact Or.inr
    · rintro (rfl | member)
      · exact present
      · exact member
  · simp [or_comm]

/-! ### Putting edges -/

/-- A change of links that leaves the successors alone is not seen among them. -/
theorem map_successors_modify (links : Table N (Links N)) (node other : N)
    (change : Links N → Links N) (keeps : ∀ old, (change old).successors = old.successors) :
    ((links.modify node change).get? other).map Links.successors =
      (links.get? other).map Links.successors := by
  rw [Table.get?_modify]
  split
  · cases links.get? other with
    | none => rfl
    | some old => exact congrArg some (keeps old)
  · rfl

@[simp] theorem nodes_link (graph : Graph N) (source target : N) :
    (graph.link source target).nodes = graph.nodes := by
  simp [link, nodes]

theorem successorsOf_link {graph : Graph N} {source : N} (present : source ∈ graph.nodes)
    (target other : N) :
    (graph.link source target).successorsOf other =
      if other = source then graph.successorsOf other ++ [target]
      else graph.successorsOf other := by
  obtain ⟨links, found⟩ := Option.isSome_iff_exists.mp (Table.get?_isSome_iff.mpr present)
  unfold successorsOf link
  rw [map_successors_modify]
  · rw [Table.get?_modify]
    by_cases isSource : other = source
    · subst isSource
      simp [found]
    · simp [isSource]
  · exact fun _ => rfl

/-- The graph with both ends of an edge. -/
def withEnds (graph : Graph N) (source target : N) : Graph N :=
  ((graph.addNode source).1.addNode target).1

theorem mem_nodes_withEnds {graph : Graph N} {source target node : N} :
    node ∈ (graph.withEnds source target).nodes ↔
      node = source ∨ node = target ∨ node ∈ graph.nodes := by
  unfold withEnds
  rw [mem_nodes_addNode, mem_nodes_addNode]
  exact or_left_comm

theorem successorsOf_withEnds (graph : Graph N) (source target other : N) :
    (graph.withEnds source target).successorsOf other = graph.successorsOf other := by
  simp [withEnds]

/-- The graph after an edge was put and not refused. -/
def extended (graph : Graph N) (source target : N) : Graph N :=
  if graph.containsEdge source target then graph.withEnds source target
  else (graph.withEnds source target).link source target

/-- An edge is refused exactly when it leads from a node to itself and such edges are not allowed;
otherwise both ends and the edge are there afterwards. -/
theorem putEdge_eq [Labelled N] (graph : Graph N) (source target : N) :
    (graph.putEdge source target).map Prod.fst =
      if source = target ∧ graph.allowsSelfLoops = false then
        .error (.selfLoop (Labelled.label source))
      else .ok (graph.extended source target) := by
  have sameEdges : (graph.withEnds source target).containsEdge source target =
      graph.containsEdge source target := by
    simp [containsEdge, successorsOf_withEnds]
  unfold putEdge
  by_cases refused : source = target ∧ graph.allowsSelfLoops = false
  · rw [if_pos refused, if_pos (by simpa using refused)]
    rfl
  · rw [if_neg refused, if_neg (by simpa using refused)]
    show Except.map Prod.fst (if (graph.withEnds source target).containsEdge source target then _
      else _) = _
    rw [sameEdges]
    unfold extended
    split <;> rfl

@[simp] theorem nodes_extended (graph : Graph N) (source target : N) :
    (graph.extended source target).nodes = (graph.withEnds source target).nodes := by
  unfold extended
  split
  · rfl
  · exact nodes_link _ _ _

theorem successorsOf_extended (graph : Graph N) (source target other : N) :
    (graph.extended source target).successorsOf other =
      if other = source ∧ ¬ graph.HasEdge source target then graph.successorsOf other ++ [target]
      else graph.successorsOf other := by
  unfold extended
  by_cases present : graph.HasEdge source target
  · rw [if_pos (containsEdge_iff.mpr present), successorsOf_withEnds, if_neg fun h => h.2 present]
  · have source_mem : source ∈ (graph.withEnds source target).nodes :=
      mem_nodes_withEnds.mpr (Or.inl rfl)
    rw [if_neg (mt containsEdge_iff.mp present), successorsOf_link source_mem,
      successorsOf_withEnds]
    simp [present]

theorem hasEdge_extended {graph : Graph N} {source target first second : N} :
    (graph.extended source target).HasEdge first second ↔
      (first = source ∧ second = target) ∨ graph.HasEdge first second := by
  unfold HasEdge
  rw [successorsOf_extended]
  by_cases isSource : first = source
  · subst isSource
    by_cases present : graph.HasEdge first target
    · have known : second = target → second ∈ graph.successorsOf first := by
        rintro rfl
        exact present
      simpa [present] using known
    · simp [present, or_comm]
  · simp [isSource]

@[simp] theorem allowsSelfLoops_extended (graph : Graph N) (source target : N) :
    (graph.extended source target).allowsSelfLoops = graph.allowsSelfLoops := by
  unfold extended
  split <;> simp [withEnds, link]

theorem apply_putEdge [Labelled N] (graph : Graph N) (source target : N) :
    graph.apply (.putEdge source target) =
      if source = target ∧ graph.allowsSelfLoops = false then graph
      else graph.extended source target := by
  have outcome := putEdge_eq graph source target
  show (match graph.putEdge source target with
    | .ok (changed, _) => changed
    | .error _ => graph) = _
  by_cases refused : source = target ∧ graph.allowsSelfLoops = false
  · rw [if_pos refused] at outcome ⊢
    cases put : graph.putEdge source target with
    | error _ => rfl
    | ok result => rw [put] at outcome; cases outcome
  · rw [if_neg refused] at outcome ⊢
    cases put : graph.putEdge source target with
    | error _ => rw [put] at outcome; cases outcome
    | ok result => rw [put] at outcome; exact Except.ok.inj outcome

/-! ### Many nodes, many edges -/

/-- The graph after several nodes were added. -/
def withNodes (graph : Graph N) (nodes : List N) : Graph N :=
  nodes.foldl (fun graph node => (graph.addNode node).1) graph

theorem nodes_withNodes (graph : Graph N) (nodes : List N)
    (nodup : (graph.nodes ++ nodes).Nodup) :
    (graph.withNodes nodes).nodes = graph.nodes ++ nodes := by
  unfold withNodes
  induction nodes generalizing graph with
  | nil => simp
  | cons node rest ih =>
    have absent : node ∉ graph.nodes := fun present =>
      (List.disjoint_of_nodup_append nodup) present List.mem_cons_self
    have added : (graph.addNode node).1.nodes = graph.nodes ++ [node] := by
      rw [nodes_addNode, if_neg absent]
    rw [List.foldl_cons, ih _ (by rw [added]; simpa using nodup), added]
    simp

@[simp] theorem successorsOf_withNodes (graph : Graph N) (nodes : List N) (node : N) :
    (graph.withNodes nodes).successorsOf node = graph.successorsOf node := by
  unfold withNodes
  induction nodes generalizing graph with
  | nil => rfl
  | cons first rest ih =>
    rw [List.foldl_cons, ih, successorsOf_addNode]

@[simp] theorem allowsSelfLoops_withNodes (graph : Graph N) (nodes : List N) :
    (graph.withNodes nodes).allowsSelfLoops = graph.allowsSelfLoops := by
  unfold withNodes
  induction nodes generalizing graph with
  | nil => rfl
  | cons first rest ih =>
    rw [List.foldl_cons, ih, allowsSelfLoops_addNode]

/-- The graph after several edges were put and none of them was refused. -/
def withEdges (graph : Graph N) (pairs : List (N × N)) : Graph N :=
  pairs.foldl (fun graph pair => graph.extended pair.1 pair.2) graph

theorem withEdges_cons (graph : Graph N) (pair : N × N) (rest : List (N × N)) :
    graph.withEdges (pair :: rest) = (graph.extended pair.1 pair.2).withEdges rest := rfl

theorem hasEdge_withEdges {graph : Graph N} {pairs : List (N × N)} {source target : N} :
    (graph.withEdges pairs).HasEdge source target ↔
      graph.HasEdge source target ∨ (source, target) ∈ pairs := by
  induction pairs generalizing graph with
  | nil => simp [withEdges]
  | cons pair rest ih =>
    rw [withEdges_cons, ih, hasEdge_extended, List.mem_cons, Prod.mk.injEq]
    exact or_assoc.trans or_left_comm

/-- Between nodes that are there, edges bring no new ones. -/
theorem nodes_withEdges {graph : Graph N} {pairs : List (N × N)}
    (ends : ∀ pair ∈ pairs, pair.1 ∈ graph.nodes ∧ pair.2 ∈ graph.nodes) :
    (graph.withEdges pairs).nodes = graph.nodes := by
  induction pairs generalizing graph with
  | nil => rfl
  | cons pair rest ih =>
    obtain ⟨source_mem, target_mem⟩ := ends pair List.mem_cons_self
    have same : (graph.extended pair.1 pair.2).nodes = graph.nodes := by
      simp [withEnds, source_mem, target_mem]
    rw [withEdges_cons, ih, same]
    exact fun other member => same ▸ ends other (List.mem_cons_of_mem _ member)

/-! ### Removing edges and nodes -/

@[simp] theorem nodes_removeEdge (graph : Graph N) (source target : N) :
    (graph.removeEdge source target).1.nodes = graph.nodes := by
  unfold removeEdge
  split <;> simp [unlink, nodes]

theorem removeNode_absent {graph : Graph N} {node : N} (absent : node ∉ graph.nodes) :
    (graph.removeNode node).1 = graph := by
  unfold removeNode
  rw [Table.get?_eq_none_iff.mpr absent]

/-! ### Closed graphs -/

/-- Every edge ends at a node of the graph. -/
def Closed (graph : Graph N) : Prop :=
  ∀ source target, graph.HasEdge source target → target ∈ graph.nodes

theorem HasEdge.source_mem {graph : Graph N} {source target : N}
    (edge : graph.HasEdge source target) : source ∈ graph.nodes := by
  apply Table.get?_isSome_iff.mp
  unfold HasEdge successorsOf at edge
  cases found : graph.links.get? source with
  | none => simp [found] at edge
  | some links => rfl

end ExtensionHost.Graph
