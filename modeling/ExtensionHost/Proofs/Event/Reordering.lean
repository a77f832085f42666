/-
**Types may be declared in any order.**

Whether declarations are valid is told by the declared types and the relation between children and
parents, and a lineage is walked along the parents that each type lists. The order of the
declarations has no part in either.

* `Declaration.Valid.of_perm`: permuted declarations are as valid.
* `exists_build_iff`: there is a hierarchy exactly when the declarations are valid.
* `Hierarchy.lineage_congr`: lineages depend on the parents of each type and the number of types.
* `Hierarchy.Agrees`: two hierarchies that differ in the order of their types only.
* `build_of_perm`: permuted declarations make such hierarchies, or none.
-/

import ExtensionHost.Proofs.Event.Ancestry

namespace ExtensionHost

/-! ### Permuted declarations -/

namespace Declaration

variable {declarations others : List Declaration}

theorem declaredTypes_perm (permuted : declarations.Perm others) :
    (declaredTypes others).Perm (declaredTypes declarations) :=
  (permuted.map _).symm

theorem parentage_congr (permuted : declarations.Perm others) (child parent : EventType) :
    Parentage others child parent ↔ Parentage declarations child parent := by
  simp only [Parentage, permuted.mem_iff]

theorem Valid.of_perm (permuted : declarations.Perm others) (valid : Valid declarations) :
    Valid others where
  once := (declaredTypes_perm permuted).nodup_iff.mpr valid.once
  parent_mem child parent declares := by
    rw [(declaredTypes_perm permuted).mem_iff]
    exact valid.parent_mem child parent ((parentage_congr permuted child parent).mp declares)
  not_circular circular := valid.not_circular
    (circular.mono fun child parent => (parentage_congr permuted child parent).mp)

end Declaration

namespace Hierarchy

open Declaration

variable {hierarchy other : Hierarchy} {declarations others : List Declaration}

theorem exists_build_iff :
    (∃ hierarchy, build declarations = .ok hierarchy) ↔ Valid declarations := by
  have cases := build_cases declarations
  constructor
  · rintro ⟨hierarchy, built⟩
    rw [built] at cases
    exact cases.1
  · intro valid
    cases built : build declarations with
    | ok hierarchy => exact ⟨hierarchy, rfl⟩
    | error error =>
      rw [built] at cases
      exact absurd valid cases.not_valid

/-! ### Hierarchies with the same parents -/

theorem generations_congr (parents : other.parents = hierarchy.parents) (height : Nat)
    (seen generation : List EventType) :
    other.generations height seen generation = hierarchy.generations height seen generation := by
  have next : ∀ seen generation,
      other.nextGeneration seen generation = hierarchy.nextGeneration seen generation := by
    intro seen generation
    unfold nextGeneration
    rw [parents]
  induction height generalizing seen generation with
  | zero => rfl
  | succ height ih =>
    rw [generations, generations, next]
    cases hierarchy.nextGeneration seen generation with
    | nil => rfl
    | cons first rest =>
      show first :: rest ++ other.generations height _ _ =
        first :: rest ++ hierarchy.generations height _ _
      rw [ih]

theorem lineage_congr (parents : other.parents = hierarchy.parents)
    (size : other.size = hierarchy.size) (eventType : EventType) :
    other.lineage eventType = hierarchy.lineage eventType := by
  rw [lineage_eq, lineage_eq, generations_congr parents, size]

/-- Two hierarchies that answer all questions alike, and list the same types, maybe in another
order. -/
structure Agrees (hierarchy other : Hierarchy) : Prop where
  contains : ∀ eventType, other.contains eventType = hierarchy.contains eventType
  parents : ∀ eventType, other.parents eventType = hierarchy.parents eventType
  lineage : ∀ eventType, other.lineage eventType = hierarchy.lineage eventType
  isAssignable : ∀ registered concrete,
    other.isAssignable registered concrete = hierarchy.isAssignable registered concrete
  types : other.types.Perm hierarchy.types

theorem agrees_of_perm (permuted : other.declared.entries.Perm hierarchy.declared.entries) :
    hierarchy.Agrees other := by
  have stored := Table.get?_of_perm permuted
  have types : other.types.Perm hierarchy.types := permuted.map Prod.fst
  have parents : other.parents = hierarchy.parents :=
    funext fun eventType => congrArg (Option.getD · []) (stored eventType)
  have lineage := lineage_congr parents permuted.length_eq
  refine ⟨fun eventType => ?_, congrFun parents, lineage, fun registered concrete => ?_, types⟩
  · rw [Bool.eq_iff_iff]
    unfold contains
    rw [Table.contains_iff, Table.contains_iff]
    exact types.mem_iff
  · rw [Bool.eq_iff_iff, isAssignable_iff, isAssignable_iff, lineage]

/-- **Types may be declared in any order.** Permuted declarations make a hierarchy too, or none
either; and the hierarchies have the same types with the same parents, the same lineages in the same
order and the same assignable types. -/
theorem build_of_perm (permuted : declarations.Perm others) :
    match build declarations, build others with
    | .ok hierarchy, .ok other => hierarchy.Agrees other
    | .error _, .error _ => True
    | _, _ => False := by
  have valid_iff : Valid others ↔ Valid declarations :=
    ⟨Valid.of_perm permuted.symm, Valid.of_perm permuted⟩
  have cases := build_cases declarations
  have other_cases := build_cases others
  cases built : build declarations with
  | ok hierarchy =>
    rw [built] at cases
    obtain ⟨other, other_built⟩ := exists_build_iff.mpr (valid_iff.mpr cases.1)
    rw [other_built] at other_cases ⊢
    refine agrees_of_perm ?_
    rw [cases.2, other_cases.2]
    exact (permuted.map entry).symm
  | error error =>
    rw [built] at cases
    cases other_built : build others with
    | ok other =>
      rw [other_built] at other_cases
      exact cases.not_valid (valid_iff.mp other_cases.1)
    | error _ => trivial

end Hierarchy

namespace Diamond

/-- From the root down, the same declarations make a hierarchy with the same lineages, though it
lists its types in another order. -/
theorem build_reversed :
    declarations.Perm declarations.reverse ∧
      ∃ other, Hierarchy.build declarations.reverse = .ok other ∧ hierarchy.Agrees other ∧
        other.types ≠ hierarchy.types := by
  have permuted : declarations.Perm declarations.reverse := declarations.reverse_perm.symm
  have agrees := Hierarchy.build_of_perm permuted
  rw [built] at agrees
  refine ⟨permuted, .ofDeclared ⟨declarations.reverse.map Hierarchy.entry, by decide⟩, rfl, agrees,
    ?_⟩
  decide

end Diamond

end ExtensionHost
