/-
**The load order: what is missing is told first, then what is circular, else the order is right.**

* `Registry.ofDeclarations`: the registries that declarations make of an empty one.
* `Registry.Lacks`, `Registry.FirstLacking`: required dependencies that are not registered, and the
  first of them.
* `Registry.DependsOn`: the dependencies on registered extensions, as a relation.
* `missing?_eq_some_iff`, `missing?_eq_none_iff`: the check that comes before all else.
* `dependencyGraph_eq`: where nothing is missing, the graph has the registered extensions as nodes
  and the dependencies on them as edges.
* `loadOrder_resolves`: the load order of any unsealed registry.
-/

import ExtensionHost.Extension.Registry
import ExtensionHost.Proofs.Graph.Order

namespace ExtensionHost

namespace Registry

/-- The registry after a declaration; one that is refused changes nothing. -/
def declare (registry : Registry) (id : ExtensionId) (dependencies : List Dependency) : Registry :=
  match (registry.register id dependencies).value with
  | .ok changed => changed
  | .error _ => registry

/-- The registry that declarations make of an empty one. -/
def ofDeclarations (declarations : List (ExtensionId × List Dependency)) : Registry :=
  declarations.foldl (fun registry declaration => registry.declare declaration.1 declaration.2) {}

theorem declare_of_unsealed {registry : Registry} (unsealed : registry.isSealed = false)
    (id : ExtensionId) (dependencies : List Dependency) :
    registry.declare id dependencies =
      { registry with declarations := registry.declarations.insert id dependencies } := by
  unfold declare register
  rw [unsealed]
  rfl

theorem isSealed_ofDeclarations (declarations : List (ExtensionId × List Dependency)) :
    (ofDeclarations declarations).isSealed = false := by
  have kept : ∀ (registry : Registry), registry.isSealed = false →
      (declarations.foldl (fun registry declaration =>
        registry.declare declaration.1 declaration.2) registry).isSealed = false := by
    induction declarations with
    | nil => exact fun _ unsealed => unsealed
    | cons declaration rest ih =>
      intro registry unsealed
      refine ih _ ?_
      show (registry.declare declaration.1 declaration.2).isSealed = false
      rw [declare_of_unsealed unsealed]
      exact unsealed
  exact kept {} rfl

/-! ### Missing dependencies -/

/-- The pair is a required dependency on an extension that is not registered. -/
def Lacks (registry : Registry) (pair : ExtensionId × Dependency) : Prop :=
  pair.2.kind = .required ∧ pair.2.target ∉ registry.ids

/-- Of the required dependencies that are not registered, the first in the order of registration and
then of declaration leads from one extension to the other. -/
def FirstLacking (registry : Registry) (id target : ExtensionId) : Prop :=
  ∃ before dependency after, registry.declared = before ++ (id, dependency) :: after ∧
    dependency.target = target ∧ registry.Lacks (id, dependency) ∧
    ∀ earlier ∈ before, ¬ registry.Lacks earlier

/-- Every required dependency is registered. -/
def Complete (registry : Registry) : Prop :=
  ∀ pair ∈ registry.declared, ¬ registry.Lacks pair

theorem contains_iff {registry : Registry} {id : ExtensionId} :
    registry.contains id = true ↔ id ∈ registry.ids :=
  Table.contains_iff

/-- The test of the check for missing dependencies. -/
theorem lacks_iff {registry : Registry} {pair : ExtensionId × Dependency} :
    (!pair.2.isOptional && !registry.contains pair.2.target) = true ↔ registry.Lacks pair := by
  have registered : registry.contains pair.2.target = true ↔ pair.2.target ∈ registry.ids :=
    contains_iff
  unfold Lacks Dependency.isOptional
  cases pair.2.kind <;> simp [← registered]

theorem missing?_eq_some_iff {registry : Registry} {id target : ExtensionId} :
    registry.missing? = some (id, target) ↔ registry.FirstLacking id target := by
  unfold missing? FirstLacking
  rw [Option.map_eq_some_iff]
  constructor
  · rintro ⟨⟨source, dependency⟩, found, equal⟩
    obtain ⟨rfl, rfl⟩ := Prod.mk.inj equal
    obtain ⟨lacking, before, after, split, earlier⟩ := List.find?_eq_some_iff_append.mp found
    refine ⟨before, dependency, after, split, rfl, lacks_iff.mp lacking, fun pair member => ?_⟩
    have passed := earlier pair member
    rw [Bool.not_eq_true'] at passed
    exact fun lacks => Bool.false_ne_true (passed.symm.trans (lacks_iff.mpr lacks))
  · rintro ⟨before, dependency, after, split, rfl, lacks, earlier⟩
    refine ⟨(id, dependency), List.find?_eq_some_iff_append.mpr
      ⟨lacks_iff.mpr lacks, before, after, split, fun pair member => ?_⟩, rfl⟩
    rw [Bool.not_eq_true', ← Bool.not_eq_true]
    exact fun lacking => earlier pair member (lacks_iff.mp lacking)

theorem missing?_eq_none_iff {registry : Registry} :
    registry.missing? = none ↔ registry.Complete := by
  unfold missing? Complete
  rw [Option.map_eq_none_iff, List.find?_eq_none]
  exact ⟨fun passed pair member lacks => passed pair member (lacks_iff.mpr lacks),
    fun complete pair member lacking => complete pair member (lacks_iff.mp lacking)⟩

/-! ### The graph of the dependencies -/

/-- One extension declares a dependency, required or not, on another that is registered. -/
def DependsOn (registry : Registry) (source target : ExtensionId) : Prop :=
  ∃ dependency, (source, dependency) ∈ registry.declared ∧ dependency.target = target ∧
    target ∈ registry.ids

theorem source_mem_ids {registry : Registry} {pair : ExtensionId × Dependency}
    (declared : pair ∈ registry.declared) : pair.1 ∈ registry.ids := by
  obtain ⟨entry, member, inEntry⟩ := List.mem_flatMap.mp declared
  obtain ⟨dependency, -, rfl⟩ := List.mem_map.mp inEntry
  exact List.mem_map_of_mem member

/-- The graph of the registered extensions before any edge is put. -/
def bareGraph (registry : Registry) : Graph ExtensionId :=
  registry.ids.foldl (fun graph id => (graph.addNode id).1) { allowsSelfLoops := true }

theorem nodes_bareGraph (registry : Registry) : registry.bareGraph.nodes = registry.ids :=
  Graph.nodes_withNodes { allowsSelfLoops := true } registry.ids registry.declarations.nodup

theorem not_hasEdge_bareGraph (registry : Registry) (source target : ExtensionId) :
    ¬ registry.bareGraph.HasEdge source target := by
  have same := Graph.successorsOf_withNodes { allowsSelfLoops := true } registry.ids source
  intro edge
  exact List.not_mem_nil (same ▸ edge : target ∈ Graph.successorsOf {} source)

theorem allowsSelfLoops_bareGraph (registry : Registry) :
    registry.bareGraph.allowsSelfLoops = true :=
  Graph.allowsSelfLoops_withNodes { allowsSelfLoops := true } registry.ids

/-- Where edges from a node to itself are allowed, no dependency is refused. -/
theorem putDependency_eq (registry : Registry) {graph : Graph ExtensionId}
    (policy : graph.allowsSelfLoops = true) (pair : ExtensionId × Dependency) :
    registry.putDependency graph pair =
      .ok (if pair.2.target ∈ registry.ids then graph.extended pair.1 pair.2.target
        else graph) := by
  unfold putDependency
  by_cases registered : pair.2.target ∈ registry.ids
  · have put := graph.putEdge_eq pair.1 pair.2.target
    rw [if_neg (by simp [policy])] at put
    rw [if_pos (contains_iff.mpr registered), if_pos registered]
    cases outcome : graph.putEdge pair.1 pair.2.target with
    | error error => rw [outcome] at put; cases put
    | ok result =>
      rw [outcome] at put
      exact congrArg Except.ok (Except.ok.inj put)
  · rw [if_neg (mt contains_iff.mp registered), if_neg registered]

/-- The ends of the edges that dependencies bring. -/
def resolved (registry : Registry) (pairs : List (ExtensionId × Dependency)) :
    List (ExtensionId × ExtensionId) :=
  (pairs.map fun pair => (pair.1, pair.2.target)).filter (·.2 ∈ registry.ids)

theorem mem_resolved {registry : Registry} {pairs : List (ExtensionId × Dependency)}
    {source target : ExtensionId} :
    (source, target) ∈ registry.resolved pairs ↔
      ∃ dependency, (source, dependency) ∈ pairs ∧ dependency.target = target ∧
        target ∈ registry.ids := by
  simp only [resolved, List.mem_filter, List.mem_map, Prod.mk.injEq, decide_eq_true_iff]
  constructor
  · rintro ⟨⟨pair, member, rfl, rfl⟩, known⟩
    exact ⟨pair.2, member, rfl, known⟩
  · rintro ⟨dependency, member, rfl, known⟩
    exact ⟨⟨_, member, rfl, rfl⟩, known⟩

/-- Where edges from a node to itself are allowed, the edges of all resolved dependencies are
put. -/
theorem foldlM_putDependency (registry : Registry) (pairs : List (ExtensionId × Dependency))
    {graph : Graph ExtensionId} (policy : graph.allowsSelfLoops = true) :
    pairs.foldlM registry.putDependency graph =
      .ok (graph.withEdges (registry.resolved pairs)) := by
  induction pairs generalizing graph with
  | nil => rfl
  | cons pair rest ih =>
    rw [List.foldlM_cons, putDependency_eq registry policy pair]
    by_cases registered : pair.2.target ∈ registry.ids
    · have first : registry.resolved (pair :: rest) =
          (pair.1, pair.2.target) :: registry.resolved rest := by
        simp [resolved, registered]
      rw [if_pos registered, first, Graph.withEdges_cons]
      exact ih (by simpa using policy)
    · have none_more : registry.resolved (pair :: rest) = registry.resolved rest := by
        simp [resolved, registered]
      rw [if_neg registered, none_more]
      exact ih policy

/-- The registered extensions with the edges of all resolved dependencies. -/
def resolvedGraph (registry : Registry) : Graph ExtensionId :=
  registry.bareGraph.withEdges (registry.resolved registry.declared)

theorem nodes_resolvedGraph (registry : Registry) : registry.resolvedGraph.nodes = registry.ids := by
  have nodes_eq := registry.nodes_bareGraph
  unfold resolvedGraph
  rw [Graph.nodes_withEdges, nodes_eq]
  rintro ⟨source, target⟩ member
  obtain ⟨dependency, declared, -, known⟩ := mem_resolved.mp member
  exact ⟨nodes_eq ▸ source_mem_ids declared, nodes_eq ▸ known⟩

theorem hasEdge_resolvedGraph (registry : Registry) (source target : ExtensionId) :
    registry.resolvedGraph.HasEdge source target ↔ registry.DependsOn source target := by
  unfold resolvedGraph
  rw [Graph.hasEdge_withEdges, mem_resolved]
  exact or_iff_right (registry.not_hasEdge_bareGraph source target)

theorem dependencyGraph_value {registry : Registry} (complete : registry.Complete) :
    registry.dependencyGraph.value = .ok registry.resolvedGraph := by
  unfold dependencyGraph
  rw [missing?_eq_none_iff.mpr complete]
  exact foldlM_putDependency registry registry.declared registry.allowsSelfLoops_bareGraph

/-- Where nothing is missing, the graph has the registered extensions as nodes, and their
dependencies on one another as edges. -/
theorem dependencyGraph_eq {registry : Registry} (complete : registry.Complete) :
    ∃ graph, registry.dependencyGraph.value = .ok graph ∧ graph.nodes = registry.ids ∧
      ∀ source target, graph.HasEdge source target ↔ registry.DependsOn source target := by
  exact ⟨_, dependencyGraph_value complete, registry.nodes_resolvedGraph,
    registry.hasEdge_resolvedGraph⟩

/-! ### The load order -/

/-- A graph whose edge count is zero has no edges. -/
theorem not_hasEdge_of_edgeCount {N : Type} [DecidableEq N] {graph : Graph N}
    (none : graph.edgeCount = 0) (source target : N) : ¬ graph.HasEdge source target := by
  intro edge
  unfold Graph.HasEdge Graph.successorsOf at edge
  cases found : graph.links.get? source with
  | none => simp [found] at edge
  | some links =>
    have stored : links ∈ graph.links.values := Table.mem_values_of_get? found
    have empty := List.sum_eq_zero_iff_forall_eq_nat.mp none _ (List.mem_map_of_mem stored)
    rw [found] at edge
    rw [List.length_eq_zero_iff] at empty
    simp [empty] at edge

/-- Where nothing is missing, the load order is an order by the dependencies or tells of a closed
path along them. -/
theorem loadOrder_of_complete {registry : Registry} (unsealed : registry.isSealed = false)
    (complete : registry.Complete) :
    match registry.loadOrder.value with
    | .ok (order, _) =>
      order.Nodup ∧ (∀ id, id ∈ order ↔ id ∈ registry.ids) ∧
        ∀ source target, registry.DependsOn source target → Precedes order target source
    | .error (.circularDependency path) => ClosedPath registry.DependsOn path
    | .error _ => False := by
  obtain ⟨graph, built, nodes_eq, edges⟩ := dependencyGraph_eq complete
  have value_eq : registry.loadOrder.value = (registry.orderBy graph).value := by
    unfold loadOrder Logged.andThen
    rw [unsealed, if_neg Bool.false_ne_true, built]
  rw [value_eq]
  unfold orderBy
  by_cases bare : graph.edgeCount = 0
  · rw [if_pos bare]
    refine ⟨registry.declarations.nodup, fun id => Iff.rfl, fun source target depends => ?_⟩
    exact absurd ((edges source target).mpr depends) (not_hasEdge_of_edgeCount bare source target)
  · have closed : graph.Closed := by
      intro source target edge
      obtain ⟨-, -, -, known⟩ := (edges source target).mp edge
      exact nodes_eq ▸ known
    have cases := Graph.topologicalOrder_cases closed
    rw [if_neg bare]
    cases ordered : graph.topologicalOrder with
    | error cycle =>
      rw [ordered] at cases
      exact ClosedPath.mono cases fun source target => (edges source target).mp
    | ok order =>
      rw [ordered] at cases
      exact ⟨cases.nodup, fun id => by rw [cases.mem_iff, nodes_eq],
        fun source target depends =>
          cases.precedes source target ((edges source target).mpr depends)⟩

/-- **The load order of what was declared.** A missing dependency is reported exactly when there is
one, and it is the first. Otherwise a closed path along the dependencies is reported exactly when
they run in a circle, and otherwise every extension is listed once, after those it depends on. No
other error occurs. -/
theorem loadOrder_resolves (declarations : List (ExtensionId × List Dependency)) :
    match (ofDeclarations declarations).loadOrder.value with
    | .ok (order, _) =>
      (ofDeclarations declarations).Complete ∧ ¬ Circular (ofDeclarations declarations).DependsOn ∧
        order.Nodup ∧ (∀ id, id ∈ order ↔ id ∈ (ofDeclarations declarations).ids) ∧
        ∀ source target, (ofDeclarations declarations).DependsOn source target →
          Precedes order target source
    | .error (.missingDependency id target) =>
      (ofDeclarations declarations).FirstLacking id target
    | .error (.circularDependency path) =>
      (ofDeclarations declarations).Complete ∧
        ClosedPath (ofDeclarations declarations).DependsOn path ∧
        Circular (ofDeclarations declarations).DependsOn
    | .error _ => False := by
  have unsealed := isSealed_ofDeclarations declarations
  generalize ofDeclarations declarations = registry at unsealed ⊢
  cases missing : registry.missing? with
  | some pair =>
    have value_eq : registry.loadOrder.value = .error (.missingDependency pair.1 pair.2) := by
      unfold loadOrder Logged.andThen dependencyGraph
      rw [unsealed, if_neg Bool.false_ne_true, missing]
    rw [value_eq]
    exact missing?_eq_some_iff.mp missing
  | none =>
    have complete := missing?_eq_none_iff.mp missing
    have resolved := loadOrder_of_complete unsealed complete
    cases outcome : registry.loadOrder.value with
    | ok result =>
      rw [outcome] at resolved
      obtain ⟨nodup, members, sorted⟩ := resolved
      exact ⟨complete, not_circular_of_precedes nodup sorted, nodup, members, sorted⟩
    | error error =>
      rw [outcome] at resolved
      cases error with
      | circularDependency path => exact ⟨complete, resolved, ClosedPath.circular resolved⟩
      | missingDependency id target => exact False.elim resolved
      | registrySealed => exact resolved
      | graph error => exact resolved

end Registry

end ExtensionHost
