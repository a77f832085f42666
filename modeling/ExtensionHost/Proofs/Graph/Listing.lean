/-
**The graph as two plain lists: its nodes, and its edges.**

* `appendNew`: a list that grows at its end, and has no element twice.
* `Listing`: the nodes and the edges, each once, in the order in which they came.
* `Listing.attempt`, `Listing.ofChanges`: changes of a listing, and what they make of an empty one.
* `Listing.targets`, `Listing.sources`: the neighbours of a node, in the order of the edges.
* `linksOf_putEdge_of_not_mem`, `linksOf_removeEdge`, `linksOf_removeNode`: the neighbours after
  each change.
* `differs_putEdge` and its like: when a change makes a list different.
-/

import ExtensionHost.Proofs.Graph.Changes
import Mathlib.Data.List.Nodup

namespace ExtensionHost

open Text (Labelled)

variable {N : Type} [DecidableEq N]

/-! ### Lists that grow at the end -/

section AppendNew

variable {A : Type} [DecidableEq A]

/-- The list with an element at its end, unless it has that element already. -/
def appendNew (list : List A) (element : A) : List A :=
  if element ∈ list then list else list ++ [element]

theorem mem_appendNew {list : List A} {element other : A} :
    other ∈ appendNew list element ↔ other = element ∨ other ∈ list := by
  unfold appendNew
  by_cases present : element ∈ list
  · simp only [present, if_true, iff_or_self]
    rintro rfl
    exact present
  · simp [present, or_comm]

theorem nodup_appendNew {list : List A} (once : list.Nodup) (element : A) :
    (appendNew list element).Nodup := by
  unfold appendNew
  split
  · exact once
  · rename_i absent
    refine List.nodup_append.mpr ⟨once, List.nodup_singleton _, ?_⟩
    rintro other member _ last rfl
    exact absent (List.mem_singleton.mp last ▸ member)

theorem appendNew_eq_self_iff {list : List A} {element : A} :
    appendNew list element = list ↔ element ∈ list := by
  unfold appendNew
  by_cases present : element ∈ list <;> simp [present]

theorem filter_ne_eq_self_iff {list : List A} {element : A} :
    list.filter (· ≠ element) = list ↔ element ∉ list := by
  simp only [List.filter_eq_self, ne_eq, decide_not, Bool.not_eq_true', decide_eq_false_iff_not]
  exact ⟨fun differs member => differs element member rfl,
    fun absent other member equal => absent (equal ▸ member)⟩

theorem nodup_eraseDups : (list : List A) → list.eraseDups.Nodup
  | [] => List.nodup_nil
  | first :: rest => by
    rw [List.eraseDups_cons, List.nodup_cons]
    exact ⟨by simp, nodup_eraseDups _⟩
termination_by list => list.length
decreasing_by exact Nat.lt_succ_of_le (List.length_filter_le _ _)

theorem eraseDups_of_nodup : {list : List A} → list.Nodup → list.eraseDups = list
  | [], _ => rfl
  | first :: rest, once => by
    obtain ⟨absent, later⟩ := List.nodup_cons.mp once
    have kept : rest.filter (fun element => !element == first) = rest := by
      refine List.filter_eq_self.mpr fun element member => ?_
      simp only [Bool.not_eq_true', beq_eq_false_iff_ne, ne_eq]
      rintro rfl
      exact absent member
    rw [List.eraseDups_cons, kept, eraseDups_of_nodup later]

/-- Of two lists without repetition, the second loses what the first has. -/
theorem eraseDups_append_of_nodup {list more : List A} (once : list.Nodup) (others : more.Nodup) :
    (list ++ more).eraseDups = list ++ more.filter (· ∉ list) := by
  rw [List.eraseDups_append, List.removeAll, eraseDups_of_nodup once,
    eraseDups_of_nodup (others.filter _)]
  refine congrArg (list ++ ·) (List.filter_congr fun element _ => ?_)
  simp

theorem eraseDups_concat (list : List A) (last : A) :
    (list ++ [last]).eraseDups = appendNew list.eraseDups last := by
  rw [List.eraseDups_append]
  unfold appendNew
  have single := eraseDups_of_nodup (List.nodup_singleton last)
  by_cases present : last ∈ list <;> simp [present, List.removeAll, single]

end AppendNew

/-! ### Listings -/

/-- The links without any edge to or from a node. -/
def Links.without (links : Links N) (node : N) : Links N :=
  (links.withoutSuccessor node).withoutPredecessor node

/-- The nodes and the edges of a graph. -/
structure Listing (N : Type) where
  /-- Whether an edge may lead from a node to itself. -/
  allowsSelfLoops : Bool := false
  /-- The nodes, in the order in which they were added. -/
  nodes : List N := []
  /-- The edges, in the order in which they were put. -/
  edges : List (Edge N) := []
  nodes_nodup : nodes.Nodup := by simp
  edges_nodup : edges.Nodup := by simp
  ends_mem : ∀ edge ∈ edges, edge.source ∈ nodes ∧ edge.target ∈ nodes := by simp

namespace Listing

/-- The listing with a node at the end, if it is absent. -/
def addNode (listing : Listing N) (node : N) : Listing N where
  allowsSelfLoops := listing.allowsSelfLoops
  nodes := appendNew listing.nodes node
  edges := listing.edges
  nodes_nodup := nodup_appendNew listing.nodes_nodup node
  edges_nodup := listing.edges_nodup
  ends_mem edge member := by
    have ends := listing.ends_mem edge member
    exact ⟨mem_appendNew.mpr (.inr ends.1), mem_appendNew.mpr (.inr ends.2)⟩

/-- The listing with both ends of an edge, the source first, and with the edge, each at the end of
its list if it is absent. -/
def putEdge (listing : Listing N) (edge : Edge N) : Listing N where
  allowsSelfLoops := listing.allowsSelfLoops
  nodes := appendNew (appendNew listing.nodes edge.source) edge.target
  edges := appendNew listing.edges edge
  nodes_nodup := nodup_appendNew (nodup_appendNew listing.nodes_nodup _) _
  edges_nodup := nodup_appendNew listing.edges_nodup _
  ends_mem other member := by
    simp only [mem_appendNew]
    rcases mem_appendNew.mp member with rfl | old
    · simp
    · have ends := listing.ends_mem other old
      exact ⟨.inr (.inr ends.1), .inr (.inr ends.2)⟩

/-- The listing without an edge. -/
def removeEdge (listing : Listing N) (edge : Edge N) : Listing N where
  allowsSelfLoops := listing.allowsSelfLoops
  nodes := listing.nodes
  edges := listing.edges.filter (· ≠ edge)
  nodes_nodup := listing.nodes_nodup
  edges_nodup := listing.edges_nodup.filter _
  ends_mem other member := listing.ends_mem other (List.mem_of_mem_filter member)

/-- The listing without a node and without every edge that touches it. -/
def removeNode (listing : Listing N) (node : N) : Listing N where
  allowsSelfLoops := listing.allowsSelfLoops
  nodes := listing.nodes.filter (· ≠ node)
  edges := listing.edges.filter fun edge => edge.source ≠ node ∧ edge.target ≠ node
  nodes_nodup := listing.nodes_nodup.filter _
  edges_nodup := listing.edges_nodup.filter _
  ends_mem edge member := by
    obtain ⟨old, untouched⟩ := List.mem_filter.mp member
    obtain ⟨source, target⟩ := of_decide_eq_true untouched
    have ends := listing.ends_mem edge old
    simp [ends, source, target]

/-- The listing after a change, or the refusal of an edge from a node to itself. -/
def attempt [Labelled N] (listing : Listing N) : Graph.Change N → Except GraphError (Listing N)
  | .addNode node => .ok (listing.addNode node)
  | .putEdge source target =>
    if source = target ∧ listing.allowsSelfLoops = false then
      .error (.selfLoop (Labelled.label source))
    else .ok (listing.putEdge ⟨source, target⟩)
  | .removeEdge source target => .ok (listing.removeEdge ⟨source, target⟩)
  | .removeNode node => .ok (listing.removeNode node)

/-- The listing after a change; one that is refused changes nothing. -/
def apply [Labelled N] (listing : Listing N) (change : Graph.Change N) : Listing N :=
  match listing.attempt change with
  | .ok changed => changed
  | .error _ => listing

/-- The listing that changes make of an empty one. -/
def ofChanges [Labelled N] (allowsSelfLoops : Bool) (changes : List (Graph.Change N)) : Listing N :=
  changes.foldl apply { allowsSelfLoops }

theorem apply_putEdge [Labelled N] (listing : Listing N) (source target : N) :
    listing.apply (.putEdge source target) =
      if source = target ∧ listing.allowsSelfLoops = false then listing
      else listing.putEdge ⟨source, target⟩ := by
  simp only [apply, attempt]
  by_cases refused : source = target ∧ listing.allowsSelfLoops = false
  · rw [if_pos refused, if_pos refused]
  · rw [if_neg refused, if_neg refused]

/-- Whether a listing has other nodes or other edges than before. -/
def differs (before after : Listing N) : Bool :=
  after.nodes ≠ before.nodes || after.edges ≠ before.edges

/-- The edges that leave a node. -/
def leaving (listing : Listing N) (node : N) : List (Edge N) :=
  listing.edges.filter (·.source = node)

/-- The targets of the edges that leave a node, in the order of the edges. -/
def targets (listing : Listing N) (node : N) : List N :=
  (listing.leaving node).map Edge.target

/-- The sources of the edges that reach a node, in the order of the edges. -/
def sources (listing : Listing N) (node : N) : List N :=
  (listing.edges.filter (·.target = node)).map Edge.source

/-- The answer to a question about a node, if the node is listed. -/
def ask [Labelled N] {α : Type} (listing : Listing N) (node : N) (answer : α) :
    Except GraphError α :=
  if node ∈ listing.nodes then .ok answer else .error (.unknownNode (Labelled.label node))

/-- The links that the edges of a listing give a node. -/
def linksOf (listing : Listing N) (node : N) : Links N where
  successors := listing.targets node
  predecessors := listing.sources node

/-! ### Targets and sources -/

theorem mem_targets {listing : Listing N} {source target : N} :
    target ∈ listing.targets source ↔ ⟨source, target⟩ ∈ listing.edges := by
  simp only [targets, leaving, List.mem_map, List.mem_filter, decide_eq_true_eq]
  constructor
  · rintro ⟨⟨_, _⟩, ⟨listed, rfl⟩, rfl⟩
    exact listed
  · exact fun listed => ⟨_, ⟨listed, rfl⟩, rfl⟩

theorem mem_sources {listing : Listing N} {source target : N} :
    source ∈ listing.sources target ↔ ⟨source, target⟩ ∈ listing.edges := by
  simp only [sources, List.mem_map, List.mem_filter, decide_eq_true_eq]
  constructor
  · rintro ⟨⟨_, _⟩, ⟨listed, rfl⟩, rfl⟩
    exact listed
  · exact fun listed => ⟨_, ⟨listed, rfl⟩, rfl⟩

/-- Without an edge to a node, that node is not among the targets. -/
theorem filter_targets {listing : Listing N} {source target : N}
    (absent : ⟨source, target⟩ ∉ listing.edges) :
    (listing.targets source).filter (· ≠ target) = listing.targets source :=
  filter_ne_eq_self_iff.mpr (mt mem_targets.mp absent)

theorem filter_sources {listing : Listing N} {source target : N}
    (absent : ⟨source, target⟩ ∉ listing.edges) :
    (listing.sources target).filter (· ≠ source) = listing.sources target :=
  filter_ne_eq_self_iff.mpr (mt mem_sources.mp absent)

omit [DecidableEq N] in
theorem eq_of_ends (first second : Edge N) (sources : first.source = second.source)
    (targets : first.target = second.target) : first = second := by
  cases first
  cases second
  simp_all

/-- Edges that agree in one end differ in the other. -/
theorem nodup_otherEnds (listing : Listing N) {one other : Edge N → N}
    (ends : ∀ first second, one first = one second → other first = other second → first = second)
    (node : N) : ((listing.edges.filter (one · = node)).map other).Nodup := by
  refine List.Nodup.map_on ?_ (listing.edges_nodup.filter _)
  intro first member second present same
  have here : one first = node := of_decide_eq_true (List.mem_filter.mp member).2
  have there : one second = node := of_decide_eq_true (List.mem_filter.mp present).2
  exact ends first second (here.trans there.symm) same

theorem nodup_targets (listing : Listing N) (node : N) : (listing.targets node).Nodup :=
  listing.nodup_otherEnds eq_of_ends node

theorem nodup_sources (listing : Listing N) (node : N) : (listing.sources node).Nodup :=
  listing.nodup_otherEnds (fun _ _ here there => eq_of_ends _ _ there here) node

theorem linksOf_putEdge_of_mem {listing : Listing N} {edge : Edge N}
    (present : edge ∈ listing.edges) (node : N) :
    (listing.putEdge edge).linksOf node = listing.linksOf node := by
  have unchanged : appendNew listing.edges edge = listing.edges :=
    appendNew_eq_self_iff.mpr present
  simp only [linksOf, targets, sources, leaving, putEdge, unchanged]

theorem linksOf_putEdge_of_not_mem {listing : Listing N} {edge : Edge N}
    (absent : edge ∉ listing.edges) (node : N) :
    (listing.putEdge edge).linksOf node = {
      successors := listing.targets node ++ if node = edge.source then [edge.target] else []
      predecessors := listing.sources node ++ if node = edge.target then [edge.source] else [] } := by
  have grown : appendNew listing.edges edge = listing.edges ++ [edge] := if_neg absent
  simp only [linksOf, targets, sources, leaving, putEdge, grown, List.filter_append,
    List.map_append]
  by_cases isSource : node = edge.source <;> by_cases isTarget : node = edge.target <;>
    simp_all [eq_comm]

/-- Without an edge, its one end loses its other end and all other nodes lose nothing. -/
theorem otherEnds_removeEdge (listing : Listing N) (edge : Edge N) {one other : Edge N → N}
    (ends : ∀ first second, one first = one second → other first = other second → first = second)
    (node : N) :
    ((listing.removeEdge edge).edges.filter (one · = node)).map other =
      if node = one edge then
        ((listing.edges.filter (one · = node)).map other).filter (· ≠ other edge)
      else (listing.edges.filter (one · = node)).map other := by
  simp only [removeEdge, List.filter_filter]
  split
  · rename_i same
    rw [List.filter_map, List.filter_filter]
    refine congrArg (List.map other) (List.filter_congr fun found _ => ?_)
    have whole := ends found edge
    grind
  · rename_i different
    refine congrArg (List.map other) (List.filter_congr fun found _ => ?_)
    grind

theorem linksOf_removeEdge (listing : Listing N) (edge : Edge N) (node : N) :
    (listing.removeEdge edge).linksOf node = {
      successors := if node = edge.source then (listing.targets node).filter (· ≠ edge.target)
        else listing.targets node
      predecessors := if node = edge.target then (listing.sources node).filter (· ≠ edge.source)
        else listing.sources node } := by
  unfold linksOf
  congr 1
  · exact listing.otherEnds_removeEdge edge eq_of_ends node
  · exact listing.otherEnds_removeEdge edge (fun _ _ here there => eq_of_ends _ _ there here) node

theorem linksOf_removeNode (listing : Listing N) (node other : N) :
    (listing.removeNode node).linksOf other =
      if other = node then {} else (listing.linksOf other).without node := by
  simp only [linksOf, targets, sources, leaving, removeNode, List.filter_filter]
  split
  · simp_all
  · simp only [Links.without, Links.withoutSuccessor, Links.withoutPredecessor, List.filter_map,
      List.filter_filter]
    congr 1
    · refine congrArg (List.map Edge.target) (List.filter_congr fun edge _ => ?_)
      grind
    · refine congrArg (List.map Edge.source) (List.filter_congr fun edge _ => ?_)
      grind

/-- A node that is not listed has no edges. -/
theorem removeNode_of_not_mem {listing : Listing N} {node : N} (absent : node ∉ listing.nodes) :
    listing.removeNode node = listing := by
  have nodes : listing.nodes.filter (· ≠ node) = listing.nodes :=
    filter_ne_eq_self_iff.mpr absent
  have edges : listing.edges.filter (fun edge => edge.source ≠ node ∧ edge.target ≠ node) =
      listing.edges := by
    refine List.filter_eq_self.mpr fun edge member => decide_eq_true ?_
    have ends := listing.ends_mem edge member
    exact ⟨fun equal => absent (equal ▸ ends.1), fun equal => absent (equal ▸ ends.2)⟩
  unfold removeNode
  congr 1

/-! ### When a change makes a difference -/

theorem differs_addNode (listing : Listing N) (node : N) :
    listing.differs (listing.addNode node) = decide (node ∉ listing.nodes) := by
  simp [differs, addNode, appendNew_eq_self_iff]

theorem differs_putEdge (listing : Listing N) (edge : Edge N) :
    listing.differs (listing.putEdge edge) = decide (edge ∉ listing.edges) := by
  by_cases present : edge ∈ listing.edges
  · have ends := listing.ends_mem edge present
    have start := appendNew_eq_self_iff.mpr ends.1
    have finish := appendNew_eq_self_iff.mpr ends.2
    simp [differs, putEdge, start, finish, appendNew_eq_self_iff, present]
  · simp [differs, putEdge, appendNew_eq_self_iff, present]

theorem differs_removeEdge (listing : Listing N) (edge : Edge N) :
    listing.differs (listing.removeEdge edge) = decide (edge ∈ listing.edges) := by
  have kept := @filter_ne_eq_self_iff _ _ listing.edges edge
  by_cases present : edge ∈ listing.edges <;> simp_all [differs, removeEdge]

theorem differs_removeNode (listing : Listing N) (node : N) :
    listing.differs (listing.removeNode node) = decide (node ∈ listing.nodes) := by
  by_cases present : node ∈ listing.nodes
  · have kept := mt (@filter_ne_eq_self_iff _ _ listing.nodes node).mp (not_not_intro present)
    simp_all [differs, removeNode]
  · simp [removeNode_of_not_mem present, differs, present]

/-- Grouping the edges by their sources loses none and repeats none. -/
theorem length_grouped (listing : Listing N) :
    (listing.nodes.flatMap listing.leaving).length = listing.edges.length := by
  have once : (listing.nodes.flatMap listing.leaving).Nodup := by
    rw [List.nodup_flatMap]
    refine ⟨fun node _ => listing.edges_nodup.filter _, listing.nodes_nodup.imp ?_⟩
    intro first second different edge member present
    have here := of_decide_eq_true (List.mem_filter.mp member).2
    have there := of_decide_eq_true (List.mem_filter.mp present).2
    exact different (here.symm.trans there)
  refine ((List.perm_ext_iff_of_nodup once listing.edges_nodup).mpr fun edge => ?_).length_eq
  rw [List.mem_flatMap]
  constructor
  · rintro ⟨node, -, member⟩
    exact List.mem_of_mem_filter member
  · intro member
    exact ⟨_, (listing.ends_mem edge member).1, List.mem_filter.mpr ⟨member, decide_eq_true rfl⟩⟩

end Listing

end ExtensionHost
