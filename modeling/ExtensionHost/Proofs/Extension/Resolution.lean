/-
**Only the resolved dependencies count for the load order.**

A dependency on a registered extension counts once for each list in which it stands, whether it is
required or not; one on an extension that is not registered counts only if it is required.

* `Registry.dependenciesOf`, `declared_eq`: the dependencies by extension.
* `lacking`, `targets`: the two things in a list of dependencies that count.
* `missing?_eq`, `successorsOf_dependencyGraph`: what is missing is read off the first, and the
  dependency graph off the second.
* `loadOrder_congr`: so is the load order.
* `Edit`, `Registry.Alike`: the changes that make no difference, one at a time and all at once.
* `loadOrder_of_alike`: registries that differ by such changes have the same load order.
-/

import ExtensionHost.Proofs.Extension.Stability
import ExtensionHost.Proofs.Graph.Successors

namespace ExtensionHost

namespace Registry

variable {registry other : Registry} {registered : List ExtensionId}
  {first second : List Dependency} {graph : Graph ExtensionId}

/-! ### Dependencies by extension -/

/-- The dependencies of an extension; one that is not registered has none. -/
def dependenciesOf (registry : Registry) (id : ExtensionId) : List Dependency :=
  (registry.dependenciesOf? id).getD []

theorem declared_eq (registry : Registry) :
    registry.declared =
      registry.ids.flatMap fun id => (registry.dependenciesOf id).map (id, ·) := by
  unfold declared ids Table.keys
  rw [List.flatMap_map]
  refine List.flatMap_congr fun entry member => ?_
  have found : registry.dependenciesOf? entry.1 = some entry.2 := Table.get?_of_mem member
  unfold dependenciesOf
  rw [found]
  rfl

theorem flatMap_if_eq {A B : Type} [DecidableEq A] {list : List A} (once : list.Nodup)
    (element : A) (parts : A → List B) :
    (list.flatMap fun other => if other = element then parts other else []) =
      if element ∈ list then parts element else [] := by
  induction list with
  | nil => rfl
  | cons head rest ih =>
    obtain ⟨absent, later⟩ := List.nodup_cons.mp once
    rw [List.flatMap_cons, ih later]
    by_cases same : head = element
    · subst same
      simp [absent]
    · simp [same, Ne.symm same]

theorem dependenciesOf_of_not_mem {id : ExtensionId} (absent : id ∉ registry.ids) :
    registry.dependenciesOf id = [] := by
  have missing : registry.dependenciesOf? id = none := Table.get?_eq_none_iff.mpr absent
  unfold dependenciesOf
  rw [missing]
  rfl

theorem filter_declared (registry : Registry) (id : ExtensionId) :
    registry.declared.filter (·.1 = id) = (registry.dependenciesOf id).map (id, ·) := by
  have own : ∀ source, ((registry.dependenciesOf source).map (source, ·)).filter (·.1 = id) =
      if source = id then (registry.dependenciesOf source).map (source, ·) else [] := by
    intro source
    by_cases same : source = id <;> simp [List.filter_map, Function.comp_def, same]
  have once : registry.ids.Nodup := registry.declarations.nodup_keys
  rw [declared_eq, List.filter_flatMap]
  simp only [own]
  rw [flatMap_if_eq once]
  split
  · rfl
  · rename_i absent
    rw [dependenciesOf_of_not_mem absent, List.map_nil]

/-! ### What counts -/

/-- The required dependencies on extensions that are not registered. -/
def lacking (registered : List ExtensionId) (dependencies : List Dependency) : List Dependency :=
  dependencies.filter fun dependency =>
    dependency.kind = .required ∧ dependency.target ∉ registered

/-- The registered extensions among the targets, each once, in the order of their first mention. -/
def targets (registered : List ExtensionId) (dependencies : List Dependency) :
    List ExtensionId :=
  ((dependencies.map Dependency.target).filter (· ∈ registered)).eraseDups

theorem missing?_eq (registry : Registry) :
    registry.missing? =
      (registry.ids.flatMap fun id =>
        (lacking registry.ids (registry.dependenciesOf id)).map (id, ·)).head?.map
          fun pair => (pair.1, pair.2.target) := by
  have test : (fun pair : ExtensionId × Dependency =>
      !pair.2.isOptional && !registry.contains pair.2.target) =
        fun pair => decide (pair.2.kind = .required ∧ pair.2.target ∉ registry.ids) := by
    funext pair
    rw [Bool.eq_iff_iff, decide_eq_true_iff]
    exact lacks_iff
  have found : registry.missing? =
      (registry.declared.find? fun pair =>
        !pair.2.isOptional && !registry.contains pair.2.target).map
          fun pair => (pair.1, pair.2.target) := rfl
  rw [found, test, ← List.head?_filter, declared_eq, List.filter_flatMap]
  simp only [List.filter_map]
  rfl

/-- The successors of an extension are its targets. -/
theorem successorsOf_resolvedGraph (registry : Registry) (id : ExtensionId) :
    registry.resolvedGraph.successorsOf id =
      targets registry.ids (registry.dependenciesOf id) := by
  have bare : ∀ node, registry.bareGraph.successorsOf node = [] :=
    Graph.successorsOf_withNodes { allowsSelfLoops := true } registry.ids
  have own : ((registry.resolved registry.declared).filter (·.1 = id)).map Prod.snd =
      ((registry.declared.filter (·.1 = id)).map fun pair => pair.2.target).filter
        (· ∈ registry.ids) := by
    unfold resolved
    rw [List.filter_comm, List.filter_map, List.filter_map, List.filter_map, List.map_map]
    rfl
  unfold resolvedGraph
  rw [Graph.successorsOf_withEdges bare, own, filter_declared, List.map_map]
  rfl

theorem loadOrder_of_missing (unsealed : registry.isSealed = false)
    {pair : ExtensionId × ExtensionId} (lacks : registry.missing? = some pair) :
    registry.loadOrder.value = .error (.missingDependency pair.1 pair.2) := by
  unfold loadOrder Logged.andThen dependencyGraph
  rw [unsealed, if_neg Bool.false_ne_true, lacks]

/-- Registries with the same extensions in the same order, which lack the same and have the same
targets, have the same load order, or fail alike. -/
theorem loadOrder_congr (unsealed : registry.isSealed = false)
    (other_unsealed : other.isSealed = false) (ids : other.ids = registry.ids)
    (same_lacking : ∀ id, lacking registry.ids (other.dependenciesOf id) =
      lacking registry.ids (registry.dependenciesOf id))
    (same_targets : ∀ id, targets registry.ids (other.dependenciesOf id) =
      targets registry.ids (registry.dependenciesOf id)) :
    other.loadOrder.value.map Prod.fst = registry.loadOrder.value.map Prod.fst := by
  have missing : other.missing? = registry.missing? := by
    rw [missing?_eq, missing?_eq, ids]
    simp only [same_lacking]
  cases lacks : registry.missing? with
  | some pair =>
    rw [loadOrder_of_missing unsealed lacks,
      loadOrder_of_missing other_unsealed (missing.trans lacks)]
  | none =>
    have built := dependencyGraph_value (missing?_eq_none_iff.mp lacks)
    have other_built := dependencyGraph_value (missing?_eq_none_iff.mp (missing.trans lacks))
    have sorted : other.resolvedGraph.topologicalOrder = registry.resolvedGraph.topologicalOrder := by
      refine Graph.topologicalOrder_congr ?_ fun id => ?_
      · rw [nodes_resolvedGraph, nodes_resolvedGraph, ids]
      · rw [successorsOf_resolvedGraph, successorsOf_resolvedGraph, ids, same_targets]
    rw [loadOrder_value unsealed built registry.nodes_resolvedGraph,
      loadOrder_value other_unsealed other_built other.nodes_resolvedGraph, sorted]
    cases registry.resolvedGraph.topologicalOrder <;> rfl

/-! ### Changes that make no difference -/

/-- One change of a list of dependencies that no load order tells, where these extensions are
registered. What is added may also be taken away. -/
inductive Edit (registered : List ExtensionId) : List Dependency → List Dependency → Prop
  /-- An optional dependency on an extension that is not registered is added. -/
  | absent (before after : List Dependency) {target : ExtensionId}
      (unregistered : target ∉ registered) :
      Edit registered (before ++ after) (before ++ { target, kind := .optional } :: after)
  /-- A dependency on a registered extension becomes required or optional. -/
  | kind (before after : List Dependency) {target : ExtensionId} (known : target ∈ registered)
      (old new : DependencyKind) :
      Edit registered (before ++ { target, kind := old } :: after)
        (before ++ { target, kind := new } :: after)
  /-- A registered extension that was named before is named again. -/
  | repetition (before after : List Dependency) {dependency : Dependency}
      (known : dependency.target ∈ registered)
      (named : dependency.target ∈ before.map Dependency.target) :
      Edit registered (before ++ after) (before ++ dependency :: after)

theorem eraseDups_repetition {A : Type} [DecidableEq A] {before : List A} {element : A}
    (named : element ∈ before) (after : List A) :
    (before ++ element :: after).eraseDups = (before ++ after).eraseDups := by
  rw [List.eraseDups_append, List.eraseDups_append]
  simp [List.removeAll, named]

theorem Edit.lacking_eq (edit : Edit registered first second) :
    lacking registered second = lacking registered first := by
  unfold lacking
  cases edit with
  | absent before after unregistered => simp
  | kind before after known old new => simp [known]
  | repetition before after known named => simp [known]

theorem Edit.targets_eq (edit : Edit registered first second) :
    targets registered second = targets registered first := by
  unfold targets
  cases edit with
  | absent before after unregistered => simp [unregistered]
  | kind before after known old new => simp
  | @repetition before after dependency known named =>
    have among : dependency.target ∈
        (before.map Dependency.target).filter (· ∈ registered) :=
      List.mem_filter.mpr ⟨named, decide_eq_true known⟩
    simp only [List.map_append, List.map_cons, List.filter_append]
    rw [List.filter_cons_of_pos (by simpa using known), eraseDups_repetition among]

/-- The same extensions are registered in the same order, and their dependencies differ only by
changes that make no difference. -/
structure Alike (registry other : Registry) : Prop where
  ids : other.ids = registry.ids
  dependencies : ∀ id ∈ registry.ids, Relation.EqvGen (Edit registry.ids)
    (registry.dependenciesOf id) (other.dependenciesOf id)

theorem eq_of_edits {A : Type} {part : List Dependency → A}
    (kept : ∀ {first second}, Edit registered first second → part second = part first)
    (edits : Relation.EqvGen (Edit registered) first second) : part second = part first := by
  induction edits with
  | rel _ _ edit => exact kept edit
  | refl _ => rfl
  | symm _ _ _ ih => exact ih.symm
  | trans _ _ _ _ _ ih later => exact later.trans ih

theorem Alike.part_eq (alike : registry.Alike other) {A : Type} {part : List Dependency → A}
    (kept : ∀ {first second}, Edit registry.ids first second → part second = part first)
    (id : ExtensionId) : part (other.dependenciesOf id) = part (registry.dependenciesOf id) := by
  by_cases member : id ∈ registry.ids
  · exact eq_of_edits kept (alike.dependencies id member)
  · rw [dependenciesOf_of_not_mem member, dependenciesOf_of_not_mem (alike.ids ▸ member)]

/-- **Only the resolved dependencies count for the load order.** Registries that differ by optional
dependencies on what is not registered, by the kind of dependencies on what is registered, and by
repetitions of these, have the same load order, or miss the same dependency first, or report the
same circle. -/
theorem loadOrder_of_alike (alike : registry.Alike other) (unsealed : registry.isSealed = false)
    (other_unsealed : other.isSealed = false) :
    other.loadOrder.value.map Prod.fst = registry.loadOrder.value.map Prod.fst :=
  loadOrder_congr unsealed other_unsealed alike.ids (alike.part_eq Edit.lacking_eq)
    (alike.part_eq Edit.targets_eq)

end Registry

/-! ### Layers that are declared in other words -/

namespace Layers

/-- The top names the library twice, the library leaves out what is absent, the log requires what was
optional, and the bottom has an absent option. -/
def reworded : Registry :=
  .ofDeclarations [(⟨"app"⟩, [{ target := ⟨"lib"⟩ }, { target := ⟨"log"⟩ },
      { target := ⟨"lib"⟩, kind := .optional }]),
    (⟨"lib"⟩, [{ target := ⟨"core"⟩ }]), (⟨"log"⟩, [{ target := ⟨"core"⟩ }]),
    (⟨"core"⟩, [{ target := ⟨"absent"⟩, kind := .optional }])]

theorem alike_reworded : registry.Alike reworded := by
  have ids : registry.ids = [⟨"app"⟩, ⟨"lib"⟩, ⟨"log"⟩, ⟨"core"⟩] := rfl
  have absent : (⟨"absent"⟩ : ExtensionId) ∉ registry.ids := by decide
  refine ⟨rfl, ?_⟩
  rw [ids]
  simp only [List.forall_mem_cons]
  rw [← ids]
  refine ⟨?_, ?_, ?_, ?_, fun _ none => absurd none List.not_mem_nil⟩
  · exact .rel _ _ (.repetition [{ target := ⟨"lib"⟩ }, { target := ⟨"log"⟩ }] []
      (by decide) (by decide))
  · exact .symm _ _ (.rel _ _ (.absent [{ target := ⟨"core"⟩ }] [] absent))
  · exact .rel _ _ (.kind [] [] (by decide) .optional .required)
  · exact .rel _ _ (.absent [] [] absent)

/-- They are loaded in the same order. -/
theorem loadOrder_reworded : registry.Alike reworded ∧ registry.isSealed = false ∧
    reworded.isSealed = false ∧ registry.loadOrder.value.map Prod.fst = .ok order ∧
    reworded.loadOrder.value.map Prod.fst = .ok order := by
  have found : registry.loadOrder.value.map Prod.fst = .ok order := rfl
  refine ⟨alike_reworded, rfl, rfl, found, ?_⟩
  exact (Registry.loadOrder_of_alike alike_reworded rfl rfl).trans found

end Layers

end ExtensionHost
