/-
**What is seen of a graph is what two plain lists show.**

A graph stores each edge twice, with its source and with its target, and each copy is changed on
its own. So it has to be proved that the copies never disagree, and that their order is that of one
list.

* `Graph.linksOf`: the stored neighbours of a node; `linksOf_link`, `linksOf_unlink` and
  `linksOf_removeNode` say what each change makes of them.
* `Graph.Represents`: every node has the neighbours that the edges of the listing give it;
  `represents_apply` is the step lemma, `represents_ofChanges` the run lemma.
* `closed_ofChanges`: no edge ends at a node that is not there.
* `Graph.attempt`: a change with its answer; `Represents.answer`: it tells whether a list is
  different.
* `Graph.Shows`: all questions about the graph are answered from the listing.
* `shows_ofChanges`: so it is after any changes.
-/

import ExtensionHost.Proofs.Graph.Listing

namespace ExtensionHost

open Text (Labelled)

variable {N : Type} [DecidableEq N]

namespace Graph

/-! ### The links of a node -/

/-- The links of a node; a node that is not there has none. -/
def linksOf (graph : Graph N) (node : N) : Links N :=
  (graph.links.get? node).getD {}

theorem successorsOf_eq (graph : Graph N) (node : N) :
    graph.successorsOf node = (graph.linksOf node).successors := by
  unfold successorsOf linksOf
  cases graph.links.get? node <;> rfl

theorem predecessorsOf_eq (graph : Graph N) (node : N) :
    graph.predecessorsOf node = (graph.linksOf node).predecessors := by
  unfold predecessorsOf linksOf
  cases graph.links.get? node <;> rfl

theorem get?_eq_of_mem {graph : Graph N} {node : N} (present : node ∈ graph.nodes) :
    graph.links.get? node = some (graph.linksOf node) := by
  obtain ⟨links, found⟩ := Option.isSome_iff_exists.mp (Table.get?_isSome_iff.mpr present)
  unfold linksOf
  rw [found]
  rfl

theorem linksOf_addNode (graph : Graph N) (node other : N) :
    (graph.addNode node).1.linksOf other = graph.linksOf other := by
  unfold addNode
  by_cases present : node ∈ graph.nodes
  · rw [if_pos (containsNode_iff.mpr present)]
  · rw [if_neg (mt containsNode_iff.mp present)]
    simp only [linksOf, Table.get?_insert]
    by_cases same : other = node
    · have absent : graph.links.get? node = none := Table.get?_eq_none_iff.mpr present
      simp [same, absent]
    · simp [same]

theorem linksOf_link {graph : Graph N} {source target : N} (start : source ∈ graph.nodes)
    (finish : target ∈ graph.nodes) (node : N) :
    (graph.link source target).linksOf node = {
      successors := (graph.linksOf node).successors ++ if node = source then [target] else []
      predecessors :=
        (graph.linksOf node).predecessors ++ if node = target then [source] else [] } := by
  have sourceLinks := get?_eq_of_mem start
  have targetLinks := get?_eq_of_mem finish
  simp only [link, linksOf, Table.get?_modify]
  by_cases isSource : node = source <;> by_cases isTarget : node = target <;> simp_all

theorem linksOf_unlink (graph : Graph N) (source target node : N) :
    (graph.unlink source target).linksOf node = {
      successors := if node = source then (graph.linksOf node).successors.filter (· ≠ target)
        else (graph.linksOf node).successors
      predecessors := if node = target then (graph.linksOf node).predecessors.filter (· ≠ source)
        else (graph.linksOf node).predecessors } := by
  simp only [unlink, linksOf, Table.get?_modify]
  by_cases isSource : node = source <;> by_cases isTarget : node = target <;>
    cases graph.links.get? node <;> simp_all [Links.withoutSuccessor, Links.withoutPredecessor]

/-- A node is taken off the lists of those that its own links name. -/
theorem linksOf_removeNode {graph : Graph N} {node : N} (present : node ∈ graph.nodes)
    (other : N) :
    (graph.removeNode node).1.linksOf other = if other = node then {} else {
      successors := if other ∈ (graph.linksOf node).predecessors
        then (graph.linksOf other).successors.filter (· ≠ node)
        else (graph.linksOf other).successors
      predecessors := if other ∈ (graph.linksOf node).successors
        then (graph.linksOf other).predecessors.filter (· ≠ node)
        else (graph.linksOf other).predecessors } := by
  have successors : ∀ links : Links N,
      (links.withoutSuccessor node).withoutSuccessor node = links.withoutSuccessor node := by
    simp [Links.withoutSuccessor]
  have predecessors : ∀ links : Links N,
      (links.withoutPredecessor node).withoutPredecessor node = links.withoutPredecessor node := by
    simp [Links.withoutPredecessor]
  have stored : graph.linksOf other = (graph.links.get? other).getD {} := rfl
  unfold removeNode
  rw [get?_eq_of_mem present]
  show (((_ : Table N (Links N)).modifyAll _ _).get? other).getD {} = _
  rw [Table.get?_modifyAll _ _ successors, Table.get?_modifyAll _ _ predecessors, Table.get?_erase,
    stored]
  by_cases same : other = node
  · simp [same]
  · rw [if_neg same, if_neg same]
    cases graph.links.get? other with
    | none => simp
    | some links =>
      by_cases isSource : other ∈ (graph.linksOf node).predecessors <;>
        by_cases isTarget : other ∈ (graph.linksOf node).successors <;>
          simp [isSource, isTarget, Links.withoutSuccessor, Links.withoutPredecessor]

theorem nodes_removeNode (graph : Graph N) (node : N) :
    (graph.removeNode node).1.nodes = graph.nodes.filter (· ≠ node) := by
  by_cases present : node ∈ graph.nodes
  · unfold removeNode
    rw [get?_eq_of_mem present]
    simp [nodes]
  · rw [removeNode_absent present, filter_ne_eq_self_iff.mpr present]

theorem allowsSelfLoops_removeEdge (graph : Graph N) (source target : N) :
    (graph.removeEdge source target).1.allowsSelfLoops = graph.allowsSelfLoops := by
  unfold removeEdge
  split <;> rfl

theorem allowsSelfLoops_removeNode (graph : Graph N) (node : N) :
    (graph.removeNode node).1.allowsSelfLoops = graph.allowsSelfLoops := by
  unfold removeNode
  split <;> rfl

theorem edges_eq (graph : Graph N) :
    graph.edges = graph.nodes.flatMap fun node =>
      (graph.linksOf node).successors.map (Edge.mk node) := by
  unfold edges nodes Table.keys
  rw [List.flatMap_map, List.flatMap_def, List.flatMap_def]
  refine congrArg List.flatten (List.map_congr_left fun entry member => ?_)
  unfold linksOf
  rw [Table.get?_of_mem member]
  rfl

omit [DecidableEq N] in
theorem edgeCount_eq (graph : Graph N) : graph.edgeCount = graph.edges.length := by
  have sum : graph.edgeCount =
      (graph.links.values.map fun links => links.successors.length).sum := rfl
  rw [sum]
  unfold edges Table.values
  rw [List.length_flatMap, List.map_map]
  simp [Function.comp_def]

/-! ### Representation -/

/-- The graph has the nodes of a listing, and its edges in the links of both their ends. -/
structure Represents (graph : Graph N) (listing : Listing N) : Prop where
  allowsSelfLoops : graph.allowsSelfLoops = listing.allowsSelfLoops
  nodes : graph.nodes = listing.nodes
  linksOf : ∀ node, graph.linksOf node = listing.linksOf node

namespace Represents

variable {graph : Graph N} {listing : Listing N}

theorem addNode (same : graph.Represents listing) (node : N) :
    (graph.addNode node).1.Represents (listing.addNode node) where
  allowsSelfLoops := (allowsSelfLoops_addNode graph node).trans same.allowsSelfLoops
  nodes := by
    rw [nodes_addNode, same.nodes]
    rfl
  linksOf other := by
    rw [linksOf_addNode, same.linksOf]
    rfl

theorem containsNode (same : graph.Represents listing) (node : N) :
    graph.containsNode node = decide (node ∈ listing.nodes) := by
  rw [Bool.eq_iff_iff, containsNode_iff, same.nodes, decide_eq_true_iff]

theorem containsEdge (same : graph.Represents listing) (source target : N) :
    graph.containsEdge source target = decide (⟨source, target⟩ ∈ listing.edges) := by
  unfold Graph.containsEdge
  rw [successorsOf_eq, same.linksOf, decide_eq_decide]
  exact Listing.mem_targets

theorem extended (same : graph.Represents listing) (source target : N) :
    (graph.extended source target).Represents (listing.putEdge ⟨source, target⟩) := by
  have ends : (graph.withEnds source target).Represents
      ((listing.addNode source).addNode target) := (same.addNode source).addNode target
  have policy := (allowsSelfLoops_extended graph source target).trans same.allowsSelfLoops
  refine ⟨policy, (nodes_extended graph source target).trans ends.nodes, fun node => ?_⟩
  unfold Graph.extended
  by_cases present : ⟨source, target⟩ ∈ listing.edges
  · rw [if_pos (by rw [same.containsEdge, decide_eq_true present]), ends.linksOf,
      Listing.linksOf_putEdge_of_mem present]
    rfl
  · have start : source ∈ (graph.withEnds source target).nodes :=
      mem_nodes_withEnds.mpr (.inl rfl)
    have finish : target ∈ (graph.withEnds source target).nodes :=
      mem_nodes_withEnds.mpr (.inr (.inl rfl))
    rw [if_neg (by simp [same.containsEdge, present]), linksOf_link start finish, ends.linksOf,
      Listing.linksOf_putEdge_of_not_mem present]
    rfl

theorem removeEdge (same : graph.Represents listing) (source target : N) :
    (graph.removeEdge source target).1.Represents (listing.removeEdge ⟨source, target⟩) := by
  refine ⟨?_, (nodes_removeEdge _ _ _).trans same.nodes, fun node => ?_⟩
  · exact (allowsSelfLoops_removeEdge graph source target).trans same.allowsSelfLoops
  rw [Listing.linksOf_removeEdge]
  unfold Graph.removeEdge
  by_cases present : ⟨source, target⟩ ∈ listing.edges
  · rw [if_pos (by rw [same.containsEdge, decide_eq_true present]), linksOf_unlink, same.linksOf]
    rfl
  · rw [if_neg (by simp [same.containsEdge, present]), same.linksOf]
    -- an edge that is not listed is neither among the targets nor among the sources
    have targets := Listing.filter_targets present
    have sources := Listing.filter_sources present
    unfold Listing.linksOf
    congr 1
    · split
      · rename_i isSource
        rw [isSource, targets]
      · rfl
    · split
      · rename_i isTarget
        rw [isTarget, sources]
      · rfl

theorem removeNode (same : graph.Represents listing) (node : N) :
    (graph.removeNode node).1.Represents (listing.removeNode node) := by
  by_cases present : node ∈ graph.nodes
  · refine ⟨?_, ?_, fun other => ?_⟩
    · exact (allowsSelfLoops_removeNode graph node).trans same.allowsSelfLoops
    · rw [nodes_removeNode, same.nodes]
      rfl
    · rw [linksOf_removeNode present, Listing.linksOf_removeNode, same.linksOf, same.linksOf]
      refine if_congr Iff.rfl rfl (congr (congrArg Links.mk ?_) ?_)
      -- a node that is not named has no edge to lose
      · exact ite_eq_left_iff.mpr fun absent =>
          (Listing.filter_targets (mt Listing.mem_sources.mpr absent)).symm
      · exact ite_eq_left_iff.mpr fun absent =>
          (Listing.filter_sources (mt Listing.mem_targets.mpr absent)).symm
  · rw [removeNode_absent present, Listing.removeNode_of_not_mem (same.nodes ▸ present)]
    exact same

/-- The ends of a listed edge are listed. -/
theorem closed (same : graph.Represents listing) : graph.Closed := by
  intro source target edge
  have listed := same.containsEdge source target
  rw [containsEdge_iff.mpr edge] at listed
  rw [same.nodes]
  exact (listing.ends_mem _ (of_decide_eq_true listed.symm)).2

end Represents

theorem represents_apply [Labelled N] {graph : Graph N} {listing : Listing N}
    (same : graph.Represents listing) (change : Change N) :
    (graph.apply change).Represents (listing.apply change) := by
  cases change with
  | addNode node => exact same.addNode node
  | putEdge source target =>
    rw [apply_putEdge, same.allowsSelfLoops, Listing.apply_putEdge]
    split
    · exact same
    · exact same.extended source target
  | removeEdge source target => exact same.removeEdge source target
  | removeNode node => exact same.removeNode node

theorem represents_ofChanges [Labelled N] (allowsSelfLoops : Bool) (changes : List (Change N)) :
    (ofChanges allowsSelfLoops changes).Represents (.ofChanges allowsSelfLoops changes) := by
  have kept : ∀ (graph : Graph N) (listing : Listing N), graph.Represents listing →
      (changes.foldl apply graph).Represents (changes.foldl Listing.apply listing) := by
    induction changes with
    | nil => exact fun _ _ same => same
    | cons change rest ih => exact fun _ _ same => ih _ _ (represents_apply same change)
  exact kept _ _ ⟨rfl, rfl, fun _ => rfl⟩

/-- **Graphs stay closed.** Whatever is added to an empty graph and removed from it, no edge ends at
a node that is not there. -/
theorem closed_ofChanges [Labelled N] (allowsSelfLoops : Bool) (changes : List (Change N)) :
    (ofChanges allowsSelfLoops changes).Closed :=
  (represents_ofChanges allowsSelfLoops changes).closed

/-! ### Answers -/

/-- A change of a graph with its answer, or the refusal. -/
def attempt [Labelled N] (graph : Graph N) : Change N → Except GraphError (Graph N × Bool)
  | .addNode node => .ok (graph.addNode node)
  | .putEdge source target => graph.putEdge source target
  | .removeEdge source target => .ok (graph.removeEdge source target)
  | .removeNode node => .ok (graph.removeNode node)

theorem answer_addNode (graph : Graph N) (node : N) :
    (graph.addNode node).2 = !graph.containsNode node := by
  unfold addNode
  split <;> simp_all

theorem answer_removeEdge (graph : Graph N) (source target : N) :
    (graph.removeEdge source target).2 = graph.containsEdge source target := by
  unfold removeEdge
  split <;> simp_all

theorem answer_removeNode (graph : Graph N) (node : N) :
    (graph.removeNode node).2 = graph.containsNode node := by
  by_cases present : node ∈ graph.nodes
  · unfold removeNode
    rw [get?_eq_of_mem present, containsNode_iff.mpr present]
  · rw [Bool.eq_false_iff.mpr (mt containsNode_iff.mp present)]
    unfold removeNode
    rw [Table.get?_eq_none_iff.mpr present]

theorem answer_putEdge [Labelled N] {graph : Graph N} {source target : N}
    (ends : graph.containsEdge source target = true →
      graph.containsNode source = true ∧ graph.containsNode target = true) :
    (graph.putEdge source target).map Prod.snd =
      if source = target ∧ graph.allowsSelfLoops = false then
        .error (.selfLoop (Labelled.label source))
      else .ok (!graph.containsEdge source target) := by
  have sameEdges : (graph.withEnds source target).containsEdge source target =
      graph.containsEdge source target := by
    simp [containsEdge, successorsOf_withEnds]
  unfold putEdge
  by_cases refused : source = target ∧ graph.allowsSelfLoops = false
  · rw [if_pos refused, if_pos (by simpa using refused)]
    rfl
  · rw [if_neg refused, if_neg (by simpa using refused)]
    show Except.map Prod.snd (if (graph.withEnds source target).containsEdge source target then _
      else _) = _
    rw [sameEdges]
    cases present : graph.containsEdge source target with
    | false => rfl
    | true =>
      -- both ends are there, so that neither is new
      obtain ⟨start, finish⟩ := ends present
      have unchanged : graph.addNode source = (graph, false) := if_pos start
      show Except.ok ((graph.addNode source).2 || ((graph.addNode source).1.addNode target).2) =
        .ok (!true)
      rw [unchanged, answer_addNode, finish]
      rfl

theorem Represents.answer [Labelled N] {graph : Graph N} {listing : Listing N}
    (same : graph.Represents listing) (change : Change N) :
    (graph.attempt change).map Prod.snd = (listing.attempt change).map listing.differs := by
  cases change with
  | addNode node =>
    show Except.ok (graph.addNode node).2 = .ok (listing.differs (listing.addNode node))
    rw [answer_addNode, same.containsNode, Listing.differs_addNode, decide_not]
  | putEdge source target =>
    have ends : graph.containsEdge source target = true →
        graph.containsNode source = true ∧ graph.containsNode target = true := by
      simp only [same.containsEdge, same.containsNode, decide_eq_true_eq]
      exact listing.ends_mem _
    show (graph.putEdge source target).map Prod.snd = (listing.attempt _).map _
    rw [answer_putEdge ends, same.allowsSelfLoops, same.containsEdge]
    simp only [Listing.attempt]
    by_cases refused : source = target ∧ listing.allowsSelfLoops = false
    · rw [if_pos refused, if_pos refused]
      rfl
    · rw [if_neg refused, if_neg refused]
      show _ = Except.ok (listing.differs (listing.putEdge ⟨source, target⟩))
      rw [Listing.differs_putEdge, decide_not]
  | removeEdge source target =>
    show Except.ok (graph.removeEdge source target).2 = .ok (listing.differs (listing.removeEdge _))
    rw [answer_removeEdge, same.containsEdge, Listing.differs_removeEdge]
  | removeNode node =>
    show Except.ok (graph.removeNode node).2 = .ok (listing.differs (listing.removeNode node))
    rw [answer_removeNode, same.containsNode, Listing.differs_removeNode]

/-! ### Views -/

/-- All questions about the graph are answered from the listing. -/
structure Shows [Labelled N] (graph : Graph N) (listing : Listing N) : Prop where
  nodes : graph.nodes = listing.nodes
  edges : graph.edges = listing.nodes.flatMap listing.leaving
  nodeCount : graph.nodeCount = listing.nodes.length
  edgeCount : graph.edgeCount = listing.edges.length
  containsNode : ∀ node, graph.containsNode node = decide (node ∈ listing.nodes)
  containsEdge : ∀ source target,
    graph.containsEdge source target = decide (⟨source, target⟩ ∈ listing.edges)
  successors : ∀ node, graph.successors node = listing.ask node (listing.targets node)
  predecessors : ∀ node, graph.predecessors node = listing.ask node (listing.sources node)
  adjacent : ∀ node, graph.adjacent node = listing.ask node
    (listing.sources node ++ (listing.targets node).filter (· ∉ listing.sources node))

namespace Represents

variable {graph : Graph N} {listing : Listing N}

theorem ask_eq [Labelled N] (same : graph.Represents listing) (node : N) (answer : List N) :
    graph.ask node answer = listing.ask node answer := by
  unfold Graph.ask Listing.ask
  simp only [same.containsNode, decide_eq_true_eq]

theorem edges_eq (same : graph.Represents listing) :
    graph.edges = listing.nodes.flatMap listing.leaving := by
  rw [Graph.edges_eq, same.nodes]
  refine congrArg (List.flatMap · listing.nodes) (funext fun node => ?_)
  rw [same.linksOf]
  show (List.map _ _).map _ = _
  rw [List.map_map]
  -- the edges that leave a node are rebuilt from the node and their targets
  refine (List.map_congr_left fun edge member => ?_).trans (List.map_id _)
  have here : edge.source = node := of_decide_eq_true (List.mem_filter.mp member).2
  rw [← here]
  rfl

theorem shows [Labelled N] (same : graph.Represents listing) : graph.Shows listing where
  nodes := same.nodes
  edges := same.edges_eq
  nodeCount := by
    rw [← same.nodes]
    simp [nodeCount, Table.size, Graph.nodes, Table.keys]
  edgeCount := by rw [edgeCount_eq, same.edges_eq, listing.length_grouped]
  containsNode := same.containsNode
  containsEdge := same.containsEdge
  successors node := by
    unfold successors
    rw [same.ask_eq, successorsOf_eq, same.linksOf]
    rfl
  predecessors node := by
    unfold predecessors
    rw [same.ask_eq, predecessorsOf_eq, same.linksOf]
    rfl
  adjacent node := by
    unfold adjacent
    rw [same.ask_eq, predecessorsOf_eq, successorsOf_eq, same.linksOf]
    show listing.ask node (listing.sources node ++ listing.targets node).eraseDups = _
    rw [eraseDups_append_of_nodup (listing.nodup_sources node) (listing.nodup_targets node)]

end Represents

/-- **A graph is a list of nodes and a list of edges.** Whatever is added to an empty graph and
removed from it, its views show the two lists that the same changes make of empty ones, and any
further change is refused or answers whether it makes a list different. -/
theorem shows_ofChanges [Labelled N] (allowsSelfLoops : Bool) (changes : List (Change N)) :
    let graph := ofChanges allowsSelfLoops changes
    let listing := Listing.ofChanges allowsSelfLoops changes
    graph.Shows listing ∧ ∀ change,
      (graph.attempt change).map Prod.snd = (listing.attempt change).map listing.differs := by
  have same := represents_ofChanges allowsSelfLoops changes
  exact ⟨same.shows, same.answer⟩

end Graph

end ExtensionHost
