/-
**A lineage holds a type and all its ancestors, the nearest first.**

The generations above a type are computed one after the other, and each is told by its distance: the
types in it are that many parent links away, and not fewer.

* `Climbs`: that many links lead from one type up to another; `distance` is the least such number.
* `Hierarchy.Level`: what is known when a generation has been computed; `Level.next` is the step to
  the next generation.
* `Level.generations`: the generations above hold what is farther away, in the order of distance,
  because a generation without declared types has none above it.
* `mem_lineage_iff`, `pairwise_lineage`: so it is with a whole lineage.
* `lineage_of_build`: the lineages of a hierarchy that was built, and the order that they make.
-/

import ExtensionHost.Proofs.Event.Declarations
import ExtensionHost.Proofs.Event.Lineage
import Mathlib.Order.Lattice.Nat

namespace ExtensionHost

open Relation (ReflTransGen TransGen)

/-! ### Distances -/

/-- A path of that many steps leads from one element to another. -/
inductive Climbs {N : Type} (leads : N → N → Prop) (low : N) : Nat → N → Prop
  /-- No step at all. -/
  | here : Climbs leads low 0 low
  /-- One more step. -/
  | step {steps : Nat} {middle high : N} (path : Climbs leads low steps middle)
      (last : leads middle high) : Climbs leads low (steps + 1) high

/-- The least number of steps from one element to another. -/
noncomputable def distance {N : Type} (leads : N → N → Prop) (low high : N) : Nat :=
  sInf {steps | Climbs leads low steps high}

section

variable {N : Type} {leads : N → N → Prop} {low high : N} {steps : Nat}

theorem exists_climbs_iff :
    (∃ steps, Climbs leads low steps high) ↔ ReflTransGen leads low high := by
  constructor
  · rintro ⟨steps, path⟩
    induction path with
    | here => exact .refl
    | step path last ih => exact ih.tail last
  · intro path
    induction path with
    | refl => exact ⟨0, .here⟩
    | tail _ last ih =>
      obtain ⟨steps, climbs⟩ := ih
      exact ⟨steps + 1, .step climbs last⟩

theorem distance_le_of_climbs (path : Climbs leads low steps high) :
    distance leads low high ≤ steps :=
  Nat.sInf_le path

theorem le_distance (reached : ∃ steps, Climbs leads low steps high) {bound : Nat}
    (far : ∀ steps < bound, ¬ Climbs leads low steps high) : bound ≤ distance leads low high := by
  have attained : Climbs leads low (distance leads low high) high := Nat.sInf_mem reached
  exact Nat.le_of_not_lt fun near => far _ near attained

/-- A path to what is farther away passes through what is one step farther. -/
theorem exists_next {level : Nat} (path : Climbs leads low steps high)
    (far : ∀ fewer ≤ level, ¬ Climbs leads low fewer high) :
    ∃ next, Climbs leads low (level + 1) next ∧ ∀ fewer ≤ level, ¬ Climbs leads low fewer next := by
  induction path with
  | here => exact absurd .here (far 0 (Nat.zero_le _))
  | @step _ middle high path last ih =>
    by_cases near : ∃ fewer ≤ level, Climbs leads low fewer middle
    · obtain ⟨fewer, within, short⟩ := near
      have beyond : level < fewer + 1 :=
        Nat.lt_of_not_le fun close => far _ close (.step short last)
      obtain rfl : fewer = level := Nat.le_antisymm within (Nat.lt_succ_iff.mp beyond)
      exact ⟨high, .step short last, far⟩
    · exact ih fun fewer within short => near ⟨fewer, within, short⟩

end

namespace Hierarchy

/-! ### Levels -/

variable {hierarchy : Hierarchy} {start : EventType} {level : Nat}
  {earlier generation : List EventType}

/-- The earlier types are fewer links away than the level says, and the generation just as many. -/
structure Level (hierarchy : Hierarchy) (start : EventType) (level : Nat)
    (earlier generation : List EventType) : Prop where
  mem_earlier : ∀ eventType, eventType ∈ earlier ↔
    ∃ steps < level, Climbs hierarchy.HasParent start steps eventType
  mem_generation : ∀ eventType, eventType ∈ generation ↔
    Climbs hierarchy.HasParent start level eventType ∧
      ∀ steps < level, ¬ Climbs hierarchy.HasParent start steps eventType

theorem level_zero (hierarchy : Hierarchy) (start : EventType) :
    hierarchy.Level start 0 [] [start] where
  mem_earlier eventType := by simp
  mem_generation eventType := by
    rw [List.mem_singleton]
    constructor
    · rintro rfl
      exact ⟨.here, fun _ fewer => absurd fewer (Nat.not_lt_zero _)⟩
    · rintro ⟨path, -⟩
      cases path
      rfl

namespace Level

theorem mem_seen (known : hierarchy.Level start level earlier generation) (eventType : EventType) :
    eventType ∈ earlier ++ generation ↔
      ∃ steps < level + 1, Climbs hierarchy.HasParent start steps eventType := by
  rw [List.mem_append]
  constructor
  · rintro (before | now)
    · obtain ⟨steps, fewer, path⟩ := (known.mem_earlier eventType).mp before
      exact ⟨steps, Nat.lt_succ_of_lt fewer, path⟩
    · exact ⟨level, Nat.lt_succ_self _, ((known.mem_generation eventType).mp now).1⟩
  · rintro ⟨steps, within, path⟩
    by_cases near : ∃ fewer < level, Climbs hierarchy.HasParent start fewer eventType
    · exact .inl ((known.mem_earlier eventType).mpr near)
    · obtain rfl : steps = level := by
        refine Nat.le_antisymm (Nat.lt_succ_iff.mp within) (Nat.le_of_not_lt fun fewer => ?_)
        exact near ⟨steps, fewer, path⟩
      exact .inr ((known.mem_generation eventType).mpr
        ⟨path, fun fewer less short => near ⟨fewer, less, short⟩⟩)

/-- What the next generation holds is one link farther away. -/
theorem next (known : hierarchy.Level start level earlier generation) :
    hierarchy.Level start (level + 1) (earlier ++ generation)
      (hierarchy.nextGeneration (earlier ++ generation) generation) where
  mem_earlier := known.mem_seen
  mem_generation eventType := by
    rw [mem_nextGeneration, known.mem_seen]
    constructor
    · rintro ⟨⟨child, member, has⟩, unseen⟩
      refine ⟨.step ((known.mem_generation child).mp member).1 has, fun steps fewer path => ?_⟩
      exact unseen ⟨steps, fewer, path⟩
    · rintro ⟨path, far⟩
      refine ⟨?_, fun ⟨steps, fewer, short⟩ => far steps fewer short⟩
      cases path with
      | @step _ child _ path has =>
        -- were the child nearer, so would be its parent
        refine ⟨child, (known.mem_generation child).mpr ⟨path, fun steps fewer short => ?_⟩, has⟩
        exact far (steps + 1) (Nat.succ_lt_succ fewer) (.step short has)

/-- With no generation above, nothing is farther away. -/
theorem not_climbs_of_none (known : hierarchy.Level start level earlier generation)
    (none_above : hierarchy.nextGeneration (earlier ++ generation) generation = [])
    (eventType : EventType) : ¬ ((∃ steps, Climbs hierarchy.HasParent start steps eventType) ∧
      ∀ steps ≤ level, ¬ Climbs hierarchy.HasParent start steps eventType) := by
  rintro ⟨⟨steps, path⟩, far⟩
  obtain ⟨next, climbs, beyond⟩ := exists_next path far
  have above := (known.next.mem_generation next).mpr
    ⟨climbs, fun fewer less => beyond fewer (Nat.lt_succ_iff.mp less)⟩
  rw [none_above] at above
  exact List.not_mem_nil above

theorem fresh (known : hierarchy.Level start level earlier generation) :
    ∀ eventType ∈ generation, eventType ∉ earlier := by
  intro eventType member before
  obtain ⟨steps, fewer, path⟩ := (known.mem_earlier eventType).mp before
  exact ((known.mem_generation eventType).mp member).2 steps fewer path

/-- Nothing is nearer than a generation but what is in the earlier ones. -/
theorem distance_le (known : hierarchy.Level start level earlier generation)
    {near far : EventType} (member : near ∈ generation)
    (reached : ∃ steps, Climbs hierarchy.HasParent start steps far)
    (beyond : ∀ steps < level, ¬ Climbs hierarchy.HasParent start steps far) :
    distance hierarchy.HasParent start near ≤ distance hierarchy.HasParent start far :=
  Nat.le_trans (distance_le_of_climbs ((known.mem_generation near).mp member).1)
    (le_distance reached beyond)

/-- The generations above hold all that is farther away, in the order of distance, as long as there
may be as many of them as there are declared types that the earlier ones had not. -/
theorem generations (known : hierarchy.Level start level earlier generation) {height : Nat}
    (room : (hierarchy.types.filter (· ∉ earlier)).length ≤ height) :
    (∀ eventType, eventType ∈ hierarchy.generations height (earlier ++ generation) generation ↔
      (∃ steps, Climbs hierarchy.HasParent start steps eventType) ∧
        ∀ steps ≤ level, ¬ Climbs hierarchy.HasParent start steps eventType) ∧
    (hierarchy.generations height (earlier ++ generation) generation).Pairwise fun near far =>
      distance hierarchy.HasParent start near ≤ distance hierarchy.HasParent start far := by
  induction height generalizing level earlier generation with
  | zero =>
    have none_above : hierarchy.nextGeneration (earlier ++ generation) generation = [] := by
      by_contra occupied
      exact Nat.not_lt_zero _ (Nat.lt_of_lt_of_le (length_left_lt known.fresh occupied) room)
    refine ⟨fun eventType => ?_, List.Pairwise.nil⟩
    exact iff_of_false List.not_mem_nil (known.not_climbs_of_none none_above eventType)
  | succ height ih =>
    have next := known.next
    have none_farther := known.not_climbs_of_none
    have fewer := @length_left_lt hierarchy earlier generation known.fresh
    rw [Hierarchy.generations]
    generalize hierarchy.nextGeneration (earlier ++ generation) generation = above
      at next none_farther fewer
    cases above with
    | nil =>
      refine ⟨fun eventType => ?_, List.Pairwise.nil⟩
      exact iff_of_false List.not_mem_nil (none_farther rfl eventType)
    | cons first rest =>
      obtain ⟨members, sorted⟩ := ih next
        (Nat.lt_succ_iff.mp (Nat.lt_of_lt_of_le (fewer (List.cons_ne_nil _ _)) room))
      refine ⟨fun eventType => ?_, List.pairwise_append.mpr ⟨?_, sorted, ?_⟩⟩
      · rw [List.mem_append, members, next.mem_generation]
        constructor
        · rintro (⟨path, far⟩ | ⟨reached, far⟩)
          · exact ⟨⟨_, path⟩, fun steps within => far steps (Nat.lt_succ_of_le within)⟩
          · exact ⟨reached, fun steps within => far steps (Nat.le_succ_of_le within)⟩
        · rintro ⟨reached, far⟩
          by_cases near : Climbs hierarchy.HasParent start (level + 1) eventType
          · exact .inl ⟨near, fun steps fewer => far steps (Nat.lt_succ_iff.mp fewer)⟩
          · refine .inr ⟨reached, fun steps within path => ?_⟩
            rcases Nat.le_succ_iff.mp within with closer | rfl
            · exact far steps closer path
            · exact near path
      · refine List.pairwise_of_forall_mem_list fun near member far among => ?_
        obtain ⟨path, beyond⟩ := (next.mem_generation far).mp among
        exact next.distance_le member ⟨_, path⟩ beyond
      · intro near member far among
        obtain ⟨reached, beyond⟩ := (members far).mp among
        exact next.distance_le member reached fun steps fewer =>
          beyond steps (Nat.le_of_lt fewer)

end Level

/-! ### Lineages -/

theorem room_of_none (hierarchy : Hierarchy) :
    (hierarchy.types.filter (· ∉ ([] : List EventType))).length ≤ hierarchy.size :=
  hierarchy.length_types ▸ List.length_filter_le _ _

theorem mem_lineage_iff {eventType : EventType} :
    eventType ∈ hierarchy.lineage start ↔ ReflTransGen hierarchy.HasParent start eventType := by
  obtain ⟨members, -⟩ := (hierarchy.level_zero start).generations hierarchy.room_of_none
  rw [List.nil_append] at members
  rw [← exists_climbs_iff, lineage_eq, List.mem_cons, members]
  constructor
  · rintro (rfl | ⟨reached, -⟩)
    · exact ⟨0, .here⟩
    · exact reached
  · intro reached
    by_cases own : eventType = start
    · exact .inl own
    · refine .inr ⟨reached, fun steps within path => own ?_⟩
      obtain rfl := Nat.le_zero.mp within
      cases path
      rfl

/-- The lineage is in the order of distance. -/
theorem pairwise_lineage (hierarchy : Hierarchy) (start : EventType) :
    (hierarchy.lineage start).Pairwise fun near far =>
      distance hierarchy.HasParent start near ≤ distance hierarchy.HasParent start far := by
  obtain ⟨-, sorted⟩ := (hierarchy.level_zero start).generations hierarchy.room_of_none
  rw [lineage_eq]
  refine List.pairwise_cons.mpr ⟨fun far _ => ?_, sorted⟩
  exact Nat.le_trans (distance_le_of_climbs .here) (Nat.zero_le _)

/-! ### The lineages of declarations -/

open Declaration

variable {declarations : List Declaration}

/-- The parents of a type are those that it declares. -/
theorem hasParent_eq_of_build (built : build declarations = .ok hierarchy) :
    hierarchy.HasParent = Parentage declarations := by
  have cases := build_cases declarations
  rw [built] at cases
  obtain ⟨-, entries⟩ := cases
  have declared : ∀ child parents, hierarchy.declared.get? child = some parents ↔
      ∃ declaration ∈ declarations,
        declaration.eventType = child ∧ declaration.parents = parents := by
    intro child parents
    have stored : hierarchy.declared.get? child = some parents ↔
        (child, parents) ∈ hierarchy.declared.entries := ⟨Table.mem_of_lookup, Table.get?_of_mem⟩
    rw [stored, entries, List.mem_map]
    simp only [entry, Prod.mk.injEq]
  funext child parent
  refine propext ?_
  unfold HasParent parents Parentage
  constructor
  · intro has
    cases found : hierarchy.declared.get? child with
    | none => simp [found] at has
    | some parents =>
      rw [found] at has
      obtain ⟨declaration, member, own, rfl⟩ := (declared child parents).mp found
      exact ⟨declaration, member, own, has⟩
  · rintro ⟨declaration, member, own, among⟩
    rw [(declared child _).mpr ⟨declaration, member, own, rfl⟩]
    exact among

/-- **Lineages are ancestries, and assignability is an order.** In a hierarchy that was built, a
lineage starts with its type and holds, each once and the nearer first, just the types to which
parent links lead. Types are assignable to those in their lineage, which orders them partially. -/
theorem lineage_of_build {hierarchy : Hierarchy} (built : build declarations = .ok hierarchy) :
    (∀ eventType, (hierarchy.lineage eventType).head? = some eventType ∧
      (hierarchy.lineage eventType).Nodup ∧
      (∀ ancestor, ancestor ∈ hierarchy.lineage eventType ↔
        ancestor = eventType ∨ TransGen (Parentage declarations) eventType ancestor) ∧
      (hierarchy.lineage eventType).Pairwise fun near far =>
        distance (Parentage declarations) eventType near ≤
          distance (Parentage declarations) eventType far) ∧
    (∀ registered concrete, hierarchy.isAssignable registered concrete = true ↔
      registered ∈ hierarchy.lineage concrete) ∧
    (∀ eventType, hierarchy.isAssignable eventType eventType = true) ∧
    (∀ high middle low, hierarchy.isAssignable high middle = true →
      hierarchy.isAssignable middle low = true → hierarchy.isAssignable high low = true) ∧
    ∀ first second, hierarchy.isAssignable first second = true →
      hierarchy.isAssignable second first = true → first = second := by
  have parents := hasParent_eq_of_build built
  have acyclic : ¬ Circular (Parentage declarations) := by
    have cases := build_cases declarations
    rw [built] at cases
    exact cases.1.not_circular
  have ancestry : ∀ eventType ancestor, ancestor ∈ hierarchy.lineage eventType ↔
      ReflTransGen (Parentage declarations) eventType ancestor :=
    fun eventType ancestor => parents ▸ mem_lineage_iff
  have assignable : ∀ registered concrete, hierarchy.isAssignable registered concrete = true ↔
      registered ∈ hierarchy.lineage concrete := fun _ _ => isAssignable_iff
  refine ⟨fun eventType => ⟨?_, hierarchy.nodup_lineage eventType, fun ancestor => ?_, ?_⟩,
    assignable, ?_, ?_, ?_⟩
  · rw [lineage_eq]
    rfl
  · rw [ancestry, Relation.reflTransGen_iff_eq_or_transGen]
  · exact parents ▸ hierarchy.pairwise_lineage eventType
  · intro eventType
    exact (assignable _ _).mpr ((ancestry _ _).mpr .refl)
  · intro high middle low upper lower
    rw [assignable, ancestry] at upper lower ⊢
    exact lower.trans upper
  · intro first second upper lower
    rw [assignable, ancestry, Relation.reflTransGen_iff_eq_or_transGen] at upper lower
    rcases upper with rfl | upper
    · rfl
    · rcases lower with rfl | lower
      · rfl
      · exact absurd ⟨second, upper.trans lower⟩ acyclic

end Hierarchy

/-! ### Two ways up -/

namespace Diamond

/-- The leaf names one of its two parents twice, and is declared before them. -/
def declarations : List Declaration :=
  [⟨⟨"leaf"⟩, [⟨"left"⟩, ⟨"right"⟩, ⟨"left"⟩]⟩, ⟨⟨"left"⟩, [⟨"root"⟩]⟩,
    ⟨⟨"right"⟩, [⟨"left"⟩, ⟨"root"⟩]⟩, ⟨⟨"root"⟩, []⟩]

def hierarchy : Hierarchy :=
  .ofDeclared ⟨declarations.map Hierarchy.entry, by decide⟩

theorem built : Hierarchy.build declarations = .ok hierarchy := rfl

/-- Four types in the order of distance, each above the leaf and none below. -/
theorem lineage_diamond :
    hierarchy.lineage ⟨"leaf"⟩ = [⟨"leaf"⟩, ⟨"left"⟩, ⟨"right"⟩, ⟨"root"⟩] ∧
      Relation.TransGen (Declaration.Parentage declarations) ⟨"leaf"⟩ ⟨"root"⟩ ∧
      hierarchy.isAssignable ⟨"leaf"⟩ ⟨"root"⟩ = false := by
  obtain ⟨lineages, assignable, -, -, antisymm⟩ := Hierarchy.lineage_of_build built
  obtain ⟨-, -, members, -⟩ := lineages ⟨"leaf"⟩
  have listed : hierarchy.lineage ⟨"leaf"⟩ = [⟨"leaf"⟩, ⟨"left"⟩, ⟨"right"⟩, ⟨"root"⟩] := rfl
  have above : (⟨"root"⟩ : EventType) ∈ hierarchy.lineage ⟨"leaf"⟩ := by simp [listed]
  have other : (⟨"root"⟩ : EventType) ≠ ⟨"leaf"⟩ := by decide
  refine ⟨listed, ((members _).mp above).resolve_left other, Bool.eq_false_iff.mpr fun below => ?_⟩
  exact other (antisymm _ _ ((assignable _ _).mpr above) below)

end Diamond

end ExtensionHost
