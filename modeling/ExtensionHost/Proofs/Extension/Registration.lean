/-
**What declarations make of an empty registry.**

* `ids_ofDeclarations`: each extension once, in the order of first declaration.
* `dependenciesOf?_ofDeclarations`: its dependencies are those of its last declaration.
* `entries_ofDeclarations`: extensions that are declared once stay as they are declared.
* `size_ofDeclarations_iff`: nothing is lost unless an extension is declared again.
* `mem_ids_congr`, `dependsOn_congr`, `complete_congr`: what does not depend on the order of
  declaration.
-/

import ExtensionHost.Proofs.Extension.LoadOrder
import ExtensionHost.Proofs.Graph.Listing
import Mathlib.Data.List.Perm.Subperm

namespace ExtensionHost

namespace Registry

variable {declarations : List (ExtensionId × List Dependency)}

theorem ofDeclarations_concat (declarations : List (ExtensionId × List Dependency))
    (last : ExtensionId × List Dependency) :
    (ofDeclarations (declarations ++ [last])).declarations =
      (ofDeclarations declarations).declarations.insert last.1 last.2 := by
  have step : ofDeclarations (declarations ++ [last]) =
      (ofDeclarations declarations).declare last.1 last.2 := by
    unfold ofDeclarations
    rw [List.foldl_append, List.foldl_cons, List.foldl_nil]
  rw [step, declare_of_unsealed (isSealed_ofDeclarations declarations)]

/-- Each extension is listed once, in the order of first declaration. -/
theorem ids_ofDeclarations (declarations : List (ExtensionId × List Dependency)) :
    (ofDeclarations declarations).ids = (declarations.map Prod.fst).eraseDups := by
  induction declarations using List.reverseRecOn with
  | nil => rfl
  | append_singleton earlier last ih =>
    unfold ids at ih ⊢
    rw [ofDeclarations_concat, Table.keys_insert, List.map_append, List.map_singleton,
      eraseDups_concat, ← ih]
    rfl

/-- The last declaration of an extension counts. -/
theorem dependenciesOf?_ofDeclarations (declarations : List (ExtensionId × List Dependency))
    (id : ExtensionId) :
    (ofDeclarations declarations).dependenciesOf? id = declarations.reverse.lookup id := by
  induction declarations using List.reverseRecOn with
  | nil => rfl
  | append_singleton earlier last ih =>
    unfold dependenciesOf? at ih ⊢
    rw [ofDeclarations_concat, Table.get?_insert, List.reverse_append, List.reverse_singleton,
      List.singleton_append, Table.lookup_cons_ite, ih]

/-- What is declared once stays as it is declared. -/
theorem entries_ofDeclarations (once : (declarations.map Prod.fst).Nodup) :
    (ofDeclarations declarations).declarations.entries = declarations := by
  induction declarations using List.reverseRecOn with
  | nil => rfl
  | append_singleton earlier last ih =>
    rw [List.map_append, List.map_singleton] at once
    have first := ih once.of_append_left
    have absent : last.1 ∉ (ofDeclarations earlier).declarations.keys := by
      unfold Table.keys
      rw [first]
      exact fun member => List.disjoint_of_nodup_append once member List.mem_cons_self
    rw [ofDeclarations_concat, Table.entries_insert_of_not_mem absent, first]

/-- There are as many extensions as declarations exactly when none is declared again. -/
theorem size_ofDeclarations_iff :
    (ofDeclarations declarations).size = declarations.length ↔
      (declarations.map Prod.fst).Nodup := by
  have ids := ids_ofDeclarations declarations
  have distinct : (ofDeclarations declarations).ids.Nodup := Table.nodup_keys _
  have size : (ofDeclarations declarations).size = (ofDeclarations declarations).ids.length := by
    simp [Registry.size, Table.size, Registry.ids, Table.keys]
  constructor
  · intro full
    have contained : (ofDeclarations declarations).ids.Subperm (declarations.map Prod.fst) :=
      List.subperm_of_subset distinct fun id member => by simpa [ids] using member
    refine (contained.perm_of_length_le ?_).nodup_iff.mp distinct
    rw [List.length_map, ← full, size]
  · intro once
    rw [size, ids, eraseDups_of_nodup once, List.length_map]

/-! ### Whatever the order of declaration -/

variable {registry other : Registry}

theorem mem_ids_congr (same : other.declarations.entries.Perm registry.declarations.entries)
    (id : ExtensionId) : id ∈ other.ids ↔ id ∈ registry.ids :=
  (same.map Prod.fst).mem_iff

theorem mem_declared_congr
    (same : other.declarations.entries.Perm registry.declarations.entries)
    (pair : ExtensionId × Dependency) : pair ∈ other.declared ↔ pair ∈ registry.declared :=
  (same.flatMap_right _).mem_iff

theorem dependsOn_congr (same : other.declarations.entries.Perm registry.declarations.entries)
    (source target : ExtensionId) :
    other.DependsOn source target ↔ registry.DependsOn source target := by
  simp only [DependsOn, mem_ids_congr same, mem_declared_congr same]

theorem complete_congr (same : other.declarations.entries.Perm registry.declarations.entries) :
    other.Complete ↔ registry.Complete := by
  simp only [Complete, Lacks, mem_ids_congr same, mem_declared_congr same]

end Registry

end ExtensionHost
