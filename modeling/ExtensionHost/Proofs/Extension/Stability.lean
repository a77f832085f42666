/-
**The load order is stable: it is the topological order, and it leaves alone what is in order.**

* `orderBy_value`: without edges, the registration order is the topological order.
* `order_of_loadOrder`: a load order is the topological order of the dependency graph.
* `exists_loadOrder_iff`: when there is one.
* `loadOrder_of_presorted`: extensions that are registered after all they depend on are loaded in
  the order of registration.
* `Registry.declarationsIn`: the declarations of a registry in another order.
* `loadOrder_stable`: all of this of one load order, which is its own load order.
-/

import ExtensionHost.Proofs.Extension.Registration
import ExtensionHost.Proofs.Graph.Presorted

namespace ExtensionHost

namespace Registry

variable {registry after : Registry} {graph : Graph ExtensionId} {order : List ExtensionId}

/-! ### The topological order -/

/-- Without edges, every node comes after its successors. -/
theorem topologicalOrder_of_edgeCount (none : graph.edgeCount = 0) :
    graph.topologicalOrder = .ok graph.nodes :=
  Graph.topologicalOrder_of_presorted fun source target edge =>
    absurd edge (not_hasEdge_of_edgeCount none source target)

/-- What becomes of the topological order of a dependency graph. -/
def concluded (registry : Registry) :
    Except (Cycle ExtensionId) (List ExtensionId) →
      Except RegistryError (List ExtensionId × Registry)
  | .error cycle => .error (.circularDependency cycle.path)
  | .ok order => .ok (order, { registry with isSealed := true })

theorem orderBy_value (nodes : graph.nodes = registry.ids) :
    (registry.orderBy graph).value = registry.concluded graph.topologicalOrder := by
  have chosen : (if graph.edgeCount = 0 then .ok registry.ids else graph.topologicalOrder) =
      graph.topologicalOrder := by
    by_cases none : graph.edgeCount = 0
    · rw [if_pos none, topologicalOrder_of_edgeCount none, nodes]
    · rw [if_neg none]
  unfold orderBy
  rw [chosen]
  cases graph.topologicalOrder <;> rfl

/-- With nothing missing, the load order is what becomes of the topological order. -/
theorem loadOrder_value (unsealed : registry.isSealed = false)
    (built : registry.dependencyGraph.value = .ok graph) (nodes : graph.nodes = registry.ids) :
    registry.loadOrder.value = registry.concluded graph.topologicalOrder := by
  unfold loadOrder Logged.andThen
  rw [unsealed, if_neg Bool.false_ne_true, built]
  exact orderBy_value nodes

theorem unsealed_of_loadOrder (succeeded : registry.loadOrder.value = .ok (order, after)) :
    registry.isSealed = false := by
  cases locked : registry.isSealed with
  | false => rfl
  | true =>
    unfold loadOrder at succeeded
    rw [locked, if_pos rfl] at succeeded
    cases succeeded

theorem complete_of_loadOrder (succeeded : registry.loadOrder.value = .ok (order, after)) :
    registry.Complete := by
  have unsealed := unsealed_of_loadOrder succeeded
  rw [← missing?_eq_none_iff]
  cases missing : registry.missing? with
  | none => rfl
  | some pair =>
    unfold loadOrder Logged.andThen dependencyGraph at succeeded
    rw [unsealed, if_neg Bool.false_ne_true, missing] at succeeded
    cases succeeded

theorem order_of_loadOrder (succeeded : registry.loadOrder.value = .ok (order, after)) :
    ∃ graph, registry.dependencyGraph.value = .ok graph ∧ graph.nodes = registry.ids ∧
      (∀ source target, graph.HasEdge source target ↔ registry.DependsOn source target) ∧
      graph.topologicalOrder = .ok order := by
  obtain ⟨graph, built, nodes, edges⟩ := dependencyGraph_eq (complete_of_loadOrder succeeded)
  refine ⟨graph, built, nodes, edges, ?_⟩
  rw [loadOrder_value (unsealed_of_loadOrder succeeded) built nodes] at succeeded
  cases found : graph.topologicalOrder with
  | error cycle =>
    rw [found] at succeeded
    cases succeeded
  | ok sorted =>
    rw [found] at succeeded
    exact congrArg Except.ok (Prod.mk.inj (Except.ok.inj succeeded)).1

/-- There is a load order exactly when nothing is missing and nothing runs in a circle. -/
theorem exists_loadOrder_iff (unsealed : registry.isSealed = false) :
    (∃ order after, registry.loadOrder.value = .ok (order, after)) ↔
      registry.Complete ∧ ¬ Circular registry.DependsOn := by
  constructor
  · rintro ⟨order, after, succeeded⟩
    have complete := complete_of_loadOrder succeeded
    have resolved := loadOrder_of_complete unsealed complete
    rw [succeeded] at resolved
    obtain ⟨once, -, sorted⟩ := resolved
    exact ⟨complete, not_circular_of_precedes once sorted⟩
  · rintro ⟨complete, acyclic⟩
    have resolved := loadOrder_of_complete unsealed complete
    cases outcome : registry.loadOrder.value with
    | ok result => exact ⟨result.1, result.2, rfl⟩
    | error error =>
      rw [outcome] at resolved
      cases error with
      | circularDependency path => exact absurd (ClosedPath.circular resolved) acyclic
      | missingDependency id target => exact False.elim resolved
      | registrySealed => exact False.elim resolved
      | graph error => exact False.elim resolved

/-! ### Extensions that are in order -/

/-- Every extension is registered after all registered ones that it depends on. -/
def Presorted (registry : Registry) : Prop :=
  ∀ source target, registry.DependsOn source target → Precedes registry.ids target source

theorem topologicalOrder_of_presorted (presorted : registry.Presorted)
    (nodes : graph.nodes = registry.ids)
    (edges : ∀ source target, graph.HasEdge source target ↔ registry.DependsOn source target) :
    graph.topologicalOrder = .ok registry.ids := by
  rw [← nodes]
  refine Graph.topologicalOrder_of_presorted fun source target edge => ?_
  rw [nodes]
  exact presorted source target ((edges source target).mp edge)

theorem loadOrder_of_presorted (unsealed : registry.isSealed = false)
    (complete : registry.Complete) (presorted : registry.Presorted) :
    registry.loadOrder.value = .ok (registry.ids, { registry with isSealed := true }) := by
  obtain ⟨graph, built, nodes, edges⟩ := dependencyGraph_eq complete
  rw [loadOrder_value unsealed built nodes, topologicalOrder_of_presorted presorted nodes edges]
  rfl

/-! ### Registering in load order -/

/-- The declarations of the registered extensions, in the given order. -/
def declarationsIn (registry : Registry) (order : List ExtensionId) :
    List (ExtensionId × List Dependency) :=
  order.filterMap fun id => (registry.dependenciesOf? id).map (id, ·)

theorem declarationsIn_ids (registry : Registry) :
    registry.declarationsIn registry.ids = registry.declarations.entries := by
  unfold declarationsIn ids Table.keys
  rw [List.filterMap_map]
  refine Eq.trans (List.filterMap_congr fun entry member => ?_) List.filterMap_some
  show (registry.declarations.get? entry.1).map _ = _
  rw [Table.get?_of_mem member]
  rfl

theorem declarationsIn_perm (permuted : order.Perm registry.ids) :
    (registry.declarationsIn order).Perm registry.declarations.entries := by
  rw [← declarationsIn_ids]
  exact permuted.filterMap _

theorem map_fst_declarationsIn (known : order ⊆ registry.ids) :
    (registry.declarationsIn order).map Prod.fst = order := by
  unfold declarationsIn
  rw [List.map_filterMap]
  refine Eq.trans (List.filterMap_congr fun id member => ?_) List.filterMap_some
  obtain ⟨dependencies, found⟩ :=
    Option.isSome_iff_exists.mp (Table.get?_isSome_iff.mpr (known member))
  have stored : registry.dependenciesOf? id = some dependencies := found
  rw [stored]
  rfl

/-- **The load order is stable.** It is the topological order of the dependency graph; it is the
order of registration where that puts every extension after those that it depends on; and the same
declarations, registered in the load order, have the same load order. -/
theorem loadOrder_stable (succeeded : registry.loadOrder.value = .ok (order, after)) :
    (∃ graph, registry.dependencyGraph.value = .ok graph ∧ graph.topologicalOrder = .ok order) ∧
      (registry.Presorted → order = registry.ids) ∧
      (registry.declarationsIn order).Perm registry.declarations.entries ∧
      (ofDeclarations (registry.declarationsIn order)).loadOrder.value.map Prod.fst =
        .ok order := by
  obtain ⟨graph, built, nodes, edges, found⟩ := order_of_loadOrder succeeded
  have complete := complete_of_loadOrder succeeded
  have resolved := loadOrder_of_complete (unsealed_of_loadOrder succeeded) complete
  rw [succeeded] at resolved
  obtain ⟨once, members, sorted⟩ := resolved
  have permuted : order.Perm registry.ids :=
    (List.perm_ext_iff_of_nodup once registry.declarations.nodup_keys).mpr members
  have names : (registry.declarationsIn order).map Prod.fst = order :=
    map_fst_declarationsIn permuted.subset
  have entries := entries_ofDeclarations (names.symm ▸ once)
  have same := declarationsIn_perm permuted
  refine ⟨⟨graph, built, found⟩, fun presorted => ?_, same, ?_⟩
  · rw [topologicalOrder_of_presorted presorted nodes edges] at found
    exact (Except.ok.inj found).symm
  · generalize isSealed_ofDeclarations (registry.declarationsIn order) = unsealed
    generalize ofDeclarations (registry.declarationsIn order) = reordered at entries unsealed ⊢
    have ids : reordered.ids = order := (congrArg (List.map Prod.fst) entries).trans names
    rw [← entries] at same
    have presorted : reordered.Presorted := by
      intro source target depends
      rw [ids]
      exact sorted source target ((dependsOn_congr same source target).mp depends)
    rw [loadOrder_of_presorted unsealed ((complete_congr same).mpr complete) presorted, ids]
    rfl

end Registry

/-! ### Layers that are registered from the top -/

namespace Layers

/-- The top comes first, and the bottom, which two others need, comes last. -/
def registry : Registry :=
  .ofDeclarations [(⟨"app"⟩, [{ target := ⟨"lib"⟩ }, { target := ⟨"log"⟩ }]),
    (⟨"lib"⟩, [{ target := ⟨"core"⟩ }, { target := ⟨"absent"⟩, kind := .optional }]),
    (⟨"log"⟩, [{ target := ⟨"core"⟩, kind := .optional }]), (⟨"core"⟩, [])]

def order : List ExtensionId :=
  [⟨"core"⟩, ⟨"lib"⟩, ⟨"log"⟩, ⟨"app"⟩]

/-- They are loaded from the bottom, and so they are again when they are registered like that. -/
theorem loadOrder_layers :
    registry.loadOrder.value = .ok (order, { registry with isSealed := true }) ∧
      ¬ registry.Presorted ∧
      (Registry.ofDeclarations (registry.declarationsIn order)).loadOrder.value.map Prod.fst =
        .ok order := by
  have succeeded : registry.loadOrder.value = .ok (order, { registry with isSealed := true }) := rfl
  obtain ⟨-, kept, -, again⟩ := Registry.loadOrder_stable succeeded
  have moved : order ≠ registry.ids := by decide
  exact ⟨succeeded, fun presorted => moved (kept presorted), again⟩

end Layers

end ExtensionHost
