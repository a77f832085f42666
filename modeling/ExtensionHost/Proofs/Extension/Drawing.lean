/-
**The dependency graph is drawn as it was declared, and what is left out is reported.**

* `Registry.skipped`: the dependencies that the graph leaves out where none is missing.
* `Graph.edgeCount_eq_ncard`: where no successor is listed twice, every edge is counted once.
* `Registry.log_dependencyGraph`: the notices, one for each dependency that is left out.
* `Registry.Draws`: a graph with the nodes, the successors and the number of edges that the
  declarations give, and the notices on the way to it.
* `dependencyGraph_draws`: the dependency graph of any registry.
-/

import ExtensionHost.Proofs.Extension.Resolution
import ExtensionHost.Proofs.Graph.Representation
import Mathlib.Data.Set.Card

namespace ExtensionHost

namespace Graph

variable {N : Type} [DecidableEq N] {graph : Graph N}

theorem mem_edges {edge : Edge N} :
    edge ∈ graph.edges ↔ graph.HasEdge edge.source edge.target := by
  have known : graph.HasEdge edge.source edge.target → edge.source ∈ graph.nodes :=
    HasEdge.source_mem
  simp only [edges_eq, List.mem_flatMap, List.mem_map, ← successorsOf_eq]
  constructor
  · rintro ⟨source, -, target, leads, rfl⟩
    exact leads
  · intro leads
    exact ⟨edge.source, known leads, edge.target, leads, rfl⟩

/-- Where no successor is listed twice, no edge is. -/
theorem nodup_edges (once : ∀ node, (graph.successorsOf node).Nodup) : graph.edges.Nodup := by
  rw [edges_eq, List.nodup_flatMap]
  refine ⟨fun node _ => ?_, (graph.links.nodup_keys : graph.nodes.Nodup).imp ?_⟩
  · rw [← successorsOf_eq]
    exact (once node).map fun first second same => (Edge.mk.inj same).2
  · -- edges from different nodes differ
    intro first second different edge fromFirst fromSecond
    obtain ⟨_, -, rfl⟩ := List.mem_map.mp fromFirst
    obtain ⟨_, -, same⟩ := List.mem_map.mp fromSecond
    exact different (Edge.mk.inj same).1.symm

/-- Where no successor is listed twice, every edge is counted once. -/
theorem edgeCount_eq_ncard (once : ∀ node, (graph.successorsOf node).Nodup) :
    graph.edgeCount = {edge : Edge N | graph.HasEdge edge.source edge.target}.ncard := by
  have listed : {edge : Edge N | graph.HasEdge edge.source edge.target} =
      (graph.edges.toFinset : Set (Edge N)) := by
    ext edge
    simp [mem_edges]
  rw [listed, Set.ncard_coe_finset, List.toFinset_card_of_nodup (nodup_edges once), edgeCount_eq]

end Graph

namespace Registry

variable {registry : Registry}

/-! ### What is left out -/

/-- The optional dependencies on extensions that are not registered. -/
def skipped (registered : List ExtensionId) (dependencies : List Dependency) : List Dependency :=
  dependencies.filter fun dependency =>
    dependency.kind = .optional ∧ dependency.target ∉ registered

theorem flatMap_skipNotice (registry : Registry) (id : ExtensionId)
    (dependencies : List Dependency) :
    (dependencies.map (id, ·)).flatMap registry.skipNotice =
      (dependencies.filter (·.target ∉ registry.ids)).map
        fun dependency => .optionalDependencySkipped id dependency.target := by
  induction dependencies with
  | nil => rfl
  | cons first rest ih =>
    rw [List.map_cons, List.flatMap_cons, ih]
    unfold skipNotice
    by_cases registered : first.target ∈ registry.ids
    · simp [contains_iff.mpr registered, registered]
    · simp [mt contains_iff.mp registered, registered]

/-- Where no required dependency is missing, what is not registered is optional. -/
theorem filter_unregistered (complete : registry.Complete) (id : ExtensionId) :
    (registry.dependenciesOf id).filter (·.target ∉ registry.ids) =
      skipped registry.ids (registry.dependenciesOf id) := by
  refine List.filter_congr fun dependency member => ?_
  have declared : (id, dependency) ∈ registry.declared := by
    have own : (id, dependency) ∈ registry.declared.filter (·.1 = id) := by
      rw [filter_declared]
      exact List.mem_map_of_mem member
    exact List.mem_of_mem_filter own
  have present := complete _ declared
  unfold Lacks at present
  cases kind : dependency.kind <;> simp_all

theorem log_dependencyGraph (complete : registry.Complete) :
    registry.dependencyGraph.log = registry.ids.flatMap fun id =>
      (skipped registry.ids (registry.dependenciesOf id)).map
        fun dependency => .optionalDependencySkipped id dependency.target := by
  have noticed : registry.dependencyGraph.log = registry.declared.flatMap registry.skipNotice := by
    unfold dependencyGraph
    rw [missing?_eq_none_iff.mpr complete]
  rw [noticed, declared_eq, List.flatMap_assoc]
  simp only [flatMap_skipNotice, filter_unregistered complete]

/-! ### What is drawn -/

/-- The graph shows the declared dependencies on registered extensions, and the notices tell of the
others. -/
structure Draws (registry : Registry) (graph : Graph ExtensionId) (log : List Notice) : Prop where
  /-- The nodes are the extensions, in the order of registration. -/
  nodes : graph.nodes = registry.ids
  /-- The successors of an extension are the registered targets, in the order of declaration and each
  at its first mention. -/
  successors : ∀ id ∈ registry.ids,
    graph.successors id = .ok (targets registry.ids (registry.dependenciesOf id))
  /-- Each pair of an extension and a registered target counts once. -/
  edgeCount : graph.edgeCount =
    {edge : Edge ExtensionId | registry.DependsOn edge.source edge.target}.ncard
  /-- Each optional dependency on what is not registered has one notice, in the order of
  registration and then of declaration. -/
  log : log = registry.ids.flatMap fun id =>
    (skipped registry.ids (registry.dependenciesOf id)).map
      fun dependency => .optionalDependencySkipped id dependency.target

theorem draws_resolvedGraph (complete : registry.Complete) :
    registry.Draws registry.resolvedGraph registry.dependencyGraph.log where
  nodes := registry.nodes_resolvedGraph
  successors id member := by
    have present : registry.resolvedGraph.containsNode id = true :=
      Graph.containsNode_iff.mpr (registry.nodes_resolvedGraph.symm ▸ member)
    unfold Graph.successors Graph.ask
    rw [if_pos present, successorsOf_resolvedGraph]
  edgeCount := by
    have once (id : ExtensionId) : (registry.resolvedGraph.successorsOf id).Nodup := by
      rw [successorsOf_resolvedGraph]
      exact nodup_eraseDups _
    rw [Graph.edgeCount_eq_ncard once]
    simp only [hasEdge_resolvedGraph]
  log := log_dependencyGraph complete

/-- **The dependency graph.** Where every required dependency is registered, the graph is drawn as it
was declared, and all that is reported is what it leaves out. Otherwise the first dependency that is
missing is the error, and the only notice. -/
theorem dependencyGraph_draws (registry : Registry) :
    (registry.Complete → ∃ graph, registry.dependencyGraph.value = .ok graph ∧
      registry.Draws graph registry.dependencyGraph.log) ∧
    (¬ registry.Complete → ∃ id target, registry.FirstLacking id target ∧
      registry.dependencyGraph =
        { value := .error (.missingDependency id target)
          log := [.missingDependency id target] }) := by
  constructor
  · intro complete
    exact ⟨_, dependencyGraph_value complete, draws_resolvedGraph complete⟩
  · intro incomplete
    cases missing : registry.missing? with
    | none => exact absurd (missing?_eq_none_iff.mp missing) incomplete
    | some pair =>
      refine ⟨pair.1, pair.2, missing?_eq_some_iff.mp missing, ?_⟩
      unfold dependencyGraph
      rw [missing]

end Registry

/-! ### An extension that depends on itself -/

namespace Knot

/-- The tool depends on itself and twice on the library, and has two absent options, one of them
twice. -/
def registry : Registry :=
  .ofDeclarations [(⟨"tool"⟩, [{ target := ⟨"lib"⟩ }, { target := ⟨"absent"⟩, kind := .optional },
      { target := ⟨"tool"⟩ }, { target := ⟨"lib"⟩, kind := .optional },
      { target := ⟨"absent"⟩, kind := .optional }]),
    (⟨"lib"⟩, [{ target := ⟨"other"⟩, kind := .optional }])]

/-- Now the library requires its option. -/
def lacking : Registry :=
  registry.declare ⟨"lib"⟩ [{ target := ⟨"other"⟩ }]

/-- The circle is drawn, each edge once, and each mention of an absent option is reported. Where one
of them is required, nothing is drawn, and nothing else is reported. -/
theorem dependencyGraph_knot :
    registry.Complete ∧
      (∃ graph, registry.dependencyGraph.value = .ok graph ∧
        graph.nodes = [⟨"tool"⟩, ⟨"lib"⟩] ∧
        graph.successors ⟨"tool"⟩ = .ok [⟨"lib"⟩, ⟨"tool"⟩] ∧ graph.edgeCount = 2 ∧
        {edge : Edge ExtensionId | registry.DependsOn edge.source edge.target}.ncard = 2) ∧
      registry.dependencyGraph.log =
        [.optionalDependencySkipped ⟨"tool"⟩ ⟨"absent"⟩,
          .optionalDependencySkipped ⟨"tool"⟩ ⟨"absent"⟩,
          .optionalDependencySkipped ⟨"lib"⟩ ⟨"other"⟩] ∧
      ¬ lacking.Complete ∧ lacking.dependencyGraph.log = [.missingDependency ⟨"lib"⟩ ⟨"other"⟩] := by
  have complete : registry.Complete := Registry.missing?_eq_none_iff.mp rfl
  have incomplete : ¬ lacking.Complete := mt Registry.missing?_eq_none_iff.mpr (by decide)
  obtain ⟨graph, drawn, draws⟩ := (Registry.dependencyGraph_draws registry).1 complete
  obtain ⟨id, target, first, failed⟩ := (Registry.dependencyGraph_draws lacking).2 incomplete
  have counted : registry.dependencyGraph.value.map Graph.edgeCount = .ok 2 := rfl
  rw [drawn] at counted
  have two : graph.edgeCount = 2 := Except.ok.inj counted
  have found : lacking.missing? = some (⟨"lib"⟩, ⟨"other"⟩) := rfl
  rw [← Registry.missing?_eq_some_iff, found] at first
  cases first
  refine ⟨complete, ⟨graph, drawn, draws.nodes, draws.successors ⟨"tool"⟩ (by decide), two,
    draws.edgeCount.symm.trans two⟩, draws.log, incomplete, ?_⟩
  rw [failed]

end Knot

end ExtensionHost
