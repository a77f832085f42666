/-
**The order of registration does not decide whether there is a load order.**

What is missing and what is circular are told by the declarations, not by their order. So another
order of registration may change the load order, the dependency that is missed first or the closed
path that is met first, and nothing else.

* `Registry.Resolves`: what the load order of an unsealed registry can be, each with its reason.
* `resolves_loadOrder`: it is always one of these.
* `Concurs`: two load orders of the same extensions, or two failures of the same kind.
* `Resolves.concurs`: registries with the same declarations, whatever their order, concur.
* `loadOrder_of_perm`: so do those that are made of declarations in another order.
-/

import ExtensionHost.Proofs.Extension.Resolution

namespace ExtensionHost

namespace Registry

variable {registry other : Registry}
  {first second : Except RegistryError (List ExtensionId × Registry)}

/-! ### One registry -/

/-- What comes of the extensions of a registry that is not sealed. -/
inductive Resolves (registry : Registry) : Except RegistryError (List ExtensionId × Registry) → Prop
  /-- A required dependency is not registered. -/
  | missing (incomplete : ¬ registry.Complete) (id target : ExtensionId) :
      Resolves registry (.error (.missingDependency id target))
  /-- The dependencies run in a circle. -/
  | circular (complete : registry.Complete) (circular : Circular registry.DependsOn)
      (path : List ExtensionId) : Resolves registry (.error (.circularDependency path))
  /-- Neither is the case, and all are in the load order. -/
  | solved (complete : registry.Complete) (acyclic : ¬ Circular registry.DependsOn)
      {order : List ExtensionId} (permuted : order.Perm registry.ids) (after : Registry) :
      Resolves registry (.ok (order, after))

theorem resolves_loadOrder (unsealed : registry.isSealed = false) :
    registry.Resolves registry.loadOrder.value := by
  cases missing : registry.missing? with
  | some pair =>
    rw [loadOrder_of_missing unsealed missing]
    refine .missing (fun complete => ?_) pair.1 pair.2
    cases missing.symm.trans (missing?_eq_none_iff.mpr complete)
  | none =>
    have complete := missing?_eq_none_iff.mp missing
    have resolved := loadOrder_of_complete unsealed complete
    cases outcome : registry.loadOrder.value with
    | ok result =>
      rw [outcome] at resolved
      obtain ⟨once, members, sorted⟩ := resolved
      have permuted : result.1.Perm registry.ids :=
        (List.perm_ext_iff_of_nodup once registry.declarations.nodup_keys).mpr members
      exact .solved complete (not_circular_of_precedes once sorted) permuted result.2
    | error error =>
      rw [outcome] at resolved
      cases error with
      | circularDependency path => exact .circular complete (ClosedPath.circular resolved) path
      | missingDependency id target => exact resolved.elim
      | registrySealed => exact resolved.elim
      | graph error => exact resolved.elim

/-! ### Two registries -/

/-- Both are load orders of the same extensions, or both are failures of the same kind. -/
inductive Concurs : Except RegistryError (List ExtensionId × Registry) →
    Except RegistryError (List ExtensionId × Registry) → Prop
  /-- Two load orders. -/
  | solved {first second : List ExtensionId × Registry} (permuted : second.1.Perm first.1) :
      Concurs (.ok first) (.ok second)
  /-- Something is missing in both. -/
  | missing (id target otherId otherTarget : ExtensionId) :
      Concurs (.error (.missingDependency id target))
        (.error (.missingDependency otherId otherTarget))
  /-- Something is circular in both. -/
  | circular (path otherPath : List ExtensionId) :
      Concurs (.error (.circularDependency path)) (.error (.circularDependency otherPath))

theorem Resolves.concurs (same : other.declarations.entries.Perm registry.declarations.entries)
    (one : registry.Resolves first) (two : other.Resolves second) : Concurs first second := by
  have complete_iff := complete_congr same
  have circular_iff : Circular other.DependsOn ↔ Circular registry.DependsOn :=
    ⟨fun circle => circle.mono fun source target => (dependsOn_congr same source target).mp,
      fun circle => circle.mono fun source target => (dependsOn_congr same source target).mpr⟩
  cases one with
  | missing incomplete id target =>
    cases two with
    | missing _ otherId otherTarget => exact .missing id target otherId otherTarget
    | circular complete => exact absurd (complete_iff.mp complete) incomplete
    | solved complete => exact absurd (complete_iff.mp complete) incomplete
  | circular complete circle path =>
    cases two with
    | missing incomplete => exact absurd (complete_iff.mpr complete) incomplete
    | circular _ _ otherPath => exact .circular path otherPath
    | solved _ acyclic => exact absurd (circular_iff.mpr circle) acyclic
  | solved complete acyclic permuted after =>
    cases two with
    | missing incomplete => exact absurd (complete_iff.mpr complete) incomplete
    | circular _ circle => exact absurd (circular_iff.mp circle) acyclic
    | solved _ _ otherPermuted _ =>
      have ids : other.ids.Perm registry.ids := same.map Prod.fst
      exact .solved (otherPermuted.trans (ids.trans permuted.symm))

/-- **The order of registration does not decide solvability.** Extensions that are registered in
another order have a load order too, or miss something too, or are circular too; no other error
occurs. -/
theorem loadOrder_of_perm {declarations others : List (ExtensionId × List Dependency)}
    (once : (declarations.map Prod.fst).Nodup) (permuted : declarations.Perm others) :
    Concurs (ofDeclarations declarations).loadOrder.value
      (ofDeclarations others).loadOrder.value := by
  have entries := entries_ofDeclarations once
  have otherEntries := entries_ofDeclarations ((permuted.map Prod.fst).nodup_iff.mp once)
  refine Resolves.concurs ?_ (resolves_loadOrder (isSealed_ofDeclarations declarations))
    (resolves_loadOrder (isSealed_ofDeclarations others))
  rw [entries, otherEntries]
  exact permuted.symm

end Registry

/-! ### A circle that is entered elsewhere -/

namespace Roundabout

/-- Three extensions that need each other in turn, and one that needs two of them. -/
def declarations : List (ExtensionId × List Dependency) :=
  [(⟨"app"⟩, [{ target := ⟨"red"⟩ }, { target := ⟨"blue"⟩, kind := .optional }]),
    (⟨"red"⟩, [{ target := ⟨"green"⟩ }]), (⟨"green"⟩, [{ target := ⟨"blue"⟩, kind := .optional }]),
    (⟨"blue"⟩, [{ target := ⟨"red"⟩ }])]

/-- Registered from the end, they are circular too, though another path is met first. -/
theorem loadOrder_reversed :
    (declarations.map Prod.fst).Nodup ∧ declarations.Perm declarations.reverse ∧
      Registry.Concurs (Registry.ofDeclarations declarations).loadOrder.value
        (Registry.ofDeclarations declarations.reverse).loadOrder.value ∧
      (Registry.ofDeclarations declarations).loadOrder.value =
        .error (.circularDependency [⟨"red"⟩, ⟨"green"⟩, ⟨"blue"⟩, ⟨"red"⟩]) ∧
      (Registry.ofDeclarations declarations.reverse).loadOrder.value =
        .error (.circularDependency [⟨"blue"⟩, ⟨"red"⟩, ⟨"green"⟩, ⟨"blue"⟩]) := by
  have once : (declarations.map Prod.fst).Nodup := by decide
  have permuted : declarations.Perm declarations.reverse := declarations.reverse_perm.symm
  exact ⟨once, permuted, Registry.loadOrder_of_perm once permuted, rfl, rfl⟩

end Roundabout

end ExtensionHost
