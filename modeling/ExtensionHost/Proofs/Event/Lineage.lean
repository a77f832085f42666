/-
**The walk up from a type goes generation by generation, and meets every type at most once.**

The types that are pending when a generation begins are this generation. When their parents have
been looked at, those that are pending are the next one.

* `nextGeneration`, `generations`: the parents of a generation, and all that is above it.
* `ascend_generation`: what a walk has met when it has dealt with a generation.
* `ascend_eq`: a walk ends with all generations above, because no turn is missing.
* `lineage_eq`: so the lineage of a type is the type and the generations above it.
* `generations_fresh`: the generations above one hold new types only, each once.
* `nodup_lineage`: neither diamonds nor cycles among the declarations put a type into a lineage
  twice.
* `lineage_of_undeclared`: a type without declaration has no ancestors.
-/

import ExtensionHost.Event.Hierarchy
import ExtensionHost.Proofs.Graph.Listing
import ExtensionHost.Table.Lemmas
import Mathlib.Data.List.Nodup
import Mathlib.Data.List.Perm.Subperm

namespace ExtensionHost.Hierarchy

/-! ### Generations -/

/-- The parents of a generation that are not among the types already seen, each once. -/
def nextGeneration (hierarchy : Hierarchy) (seen generation : List EventType) : List EventType :=
  ((generation.flatMap hierarchy.parents).filter (· ∉ seen)).eraseDups

/-- The generations above one generation, where at most `height` more can follow. -/
def generations (hierarchy : Hierarchy) :
    (height : Nat) → (seen generation : List EventType) → List EventType
  | 0, _, _ => []
  | height + 1, seen, generation =>
    match hierarchy.nextGeneration seen generation with
    | [] => []
    | above => above ++ hierarchy.generations height (seen ++ above) above

/-- One type has another as its parent. -/
def HasParent (hierarchy : Hierarchy) (child parent : EventType) : Prop :=
  parent ∈ hierarchy.parents child

variable {hierarchy : Hierarchy} {earlier seen generation : List EventType}

theorem mem_nextGeneration {eventType : EventType} :
    eventType ∈ hierarchy.nextGeneration seen generation ↔
      (∃ child ∈ generation, hierarchy.HasParent child eventType) ∧ eventType ∉ seen := by
  unfold nextGeneration HasParent
  rw [List.mem_eraseDups, List.mem_filter, List.mem_flatMap, decide_eq_true_iff]

theorem not_mem_of_mem_nextGeneration {eventType : EventType}
    (member : eventType ∈ hierarchy.nextGeneration seen generation) : eventType ∉ seen :=
  (mem_nextGeneration.mp member).2

theorem nextGeneration_nil : hierarchy.nextGeneration seen [] = [] :=
  rfl

/-- What a generation has above it is what its first type has, and what is new of the others. -/
theorem nextGeneration_cons (first : EventType) (rest : List EventType) :
    hierarchy.nextGeneration seen (first :: rest) =
      hierarchy.nextGeneration seen [first] ++
        hierarchy.nextGeneration (seen ++ hierarchy.nextGeneration seen [first]) rest := by
  unfold nextGeneration
  rw [List.flatMap_cons, List.flatMap_singleton, List.filter_append, List.eraseDups_append]
  refine congrArg (_ ++ ·) (congrArg List.eraseDups ?_)
  rw [List.removeAll, List.filter_filter]
  refine List.filter_congr fun eventType _ => ?_
  by_cases old : eventType ∈ seen <;> simp [old]

theorem exists_parents_of_hasParent {child parent : EventType}
    (has : hierarchy.HasParent child parent) :
    ∃ parents, hierarchy.declared.get? child = some parents ∧ parent ∈ parents := by
  unfold HasParent parents at has
  cases found : hierarchy.declared.get? child with
  | none => simp [found] at has
  | some parents => exact ⟨parents, rfl, by simpa [found] using has⟩

theorem mem_named_of_hasParent {child parent : EventType}
    (has : hierarchy.HasParent child parent) : parent ∈ named hierarchy.declared := by
  obtain ⟨parents, found, member⟩ := exists_parents_of_hasParent has
  exact List.mem_flatten.mpr ⟨parents, Table.mem_values_of_get? found, member⟩

theorem mem_types_of_hasParent {child parent : EventType}
    (has : hierarchy.HasParent child parent) : child ∈ hierarchy.types := by
  obtain ⟨parents, found, -⟩ := exists_parents_of_hasParent has
  exact Table.get?_isSome_iff.mp (Option.isSome_of_eq_some found)

theorem length_types (hierarchy : Hierarchy) : hierarchy.types.length = hierarchy.size :=
  List.length_map _

/-- A generation with another above it has a declared type, which the earlier ones had not. -/
theorem length_left_lt (fresh : ∀ eventType ∈ generation, eventType ∉ earlier)
    (occupied : hierarchy.nextGeneration (earlier ++ generation) generation ≠ []) :
    (hierarchy.types.filter (· ∉ earlier ++ generation)).length <
      (hierarchy.types.filter (· ∉ earlier)).length := by
  obtain ⟨eventType, above⟩ := List.exists_mem_of_ne_nil _ occupied
  obtain ⟨⟨child, member, has⟩, -⟩ := mem_nextGeneration.mp above
  have left : child ∈ hierarchy.types.filter (· ∉ earlier) :=
    List.mem_filter.mpr ⟨mem_types_of_hasParent has, decide_eq_true (fresh child member)⟩
  have split : hierarchy.types.filter (· ∉ earlier ++ generation) =
      (hierarchy.types.filter (· ∉ earlier)).filter (· ∉ generation) := by
    simp [List.filter_filter, Bool.and_comm]
  rw [split]
  exact List.length_filter_lt_length_iff_exists.mpr ⟨child, left, by simpa using member⟩

theorem generations_of_none (none_above : hierarchy.nextGeneration seen generation = [])
    (height : Nat) : hierarchy.generations height seen generation = [] := by
  cases height with
  | zero => rfl
  | succ height => rw [generations, none_above]

theorem generations_fresh (hierarchy : Hierarchy) (height : Nat)
    (seen generation : List EventType) :
    (hierarchy.generations height seen generation).Nodup ∧
      ∀ eventType ∈ hierarchy.generations height seen generation, eventType ∉ seen := by
  induction height generalizing seen generation with
  | zero => exact ⟨List.nodup_nil, fun _ member => absurd member List.not_mem_nil⟩
  | succ height ih =>
    have once : (hierarchy.nextGeneration seen generation).Nodup := nodup_eraseDups _
    have fresh := @not_mem_of_mem_nextGeneration hierarchy seen generation
    rw [generations]
    generalize hierarchy.nextGeneration seen generation = above at once fresh
    cases above with
    | nil => exact ⟨List.nodup_nil, fun _ member => absurd member List.not_mem_nil⟩
    | cons first rest =>
      obtain ⟨distinct, higher⟩ := ih (seen ++ first :: rest) (first :: rest)
      refine ⟨List.nodup_append'.mpr ⟨once, distinct, ?_⟩, fun eventType member => ?_⟩
      · intro eventType below above
        exact higher eventType above (List.mem_append_right _ below)
      · rcases List.mem_append.mp member with below | above
        · exact fresh below
        · exact fun present => higher eventType above (List.mem_append_left _ present)

/-! ### The walk -/

theorem meet_of_mem {met pending : List EventType} {parent : EventType} (known : parent ∈ met) :
    Ascent.meet ⟨met, pending⟩ parent = ⟨met, pending⟩ :=
  if_pos known

theorem meet_of_not_mem {met pending : List EventType} {parent : EventType}
    (unknown : parent ∉ met) :
    Ascent.meet ⟨met, pending⟩ parent = ⟨met ++ [parent], pending ++ [parent]⟩ :=
  if_neg unknown

/-- Of the parents of one type, those that are new are met, each once. -/
theorem foldl_meet (parents met pending : List EventType) :
    parents.foldl Ascent.meet ⟨met, pending⟩ =
      ⟨met ++ (parents.filter (· ∉ met)).eraseDups,
        pending ++ (parents.filter (· ∉ met)).eraseDups⟩ := by
  induction parents generalizing met pending with
  | nil => simp
  | cons parent rest ih =>
    rw [List.foldl_cons]
    by_cases known : parent ∈ met
    · rw [meet_of_mem known, ih, List.filter_cons_of_neg (by simpa using known)]
    · have others : rest.filter (· ∉ met ++ [parent]) =
          (rest.filter (· ∉ met)).filter fun other => !other == parent := by
        rw [List.filter_filter]
        refine List.filter_congr fun other _ => ?_
        simp [Bool.and_comm, beq_eq_decide]
      rw [meet_of_not_mem known, ih, List.filter_cons_of_pos (by simpa using known),
        List.eraseDups_cons, others, List.append_assoc, List.append_assoc]
      rfl

theorem ascend_of_none_pending (declared : Table EventType (List EventType)) (turns : Nat)
    (met : List EventType) : ascend declared turns ⟨met, []⟩ = met := by
  cases turns <;> rfl

/-- Each turn of a walk takes one type from those that are pending. -/
theorem ascend_turns (hierarchy : Hierarchy) (generation met pending : List EventType)
    (turns : Nat) :
    ascend hierarchy.declared (generation.length + turns) ⟨met, generation ++ pending⟩ =
      ascend hierarchy.declared turns ⟨met ++ hierarchy.nextGeneration met generation,
        pending ++ hierarchy.nextGeneration met generation⟩ := by
  induction generation generalizing met pending with
  | nil => simp [nextGeneration_nil]
  | cons current rest ih =>
    have above : ((hierarchy.parents current).filter (· ∉ met)).eraseDups =
        hierarchy.nextGeneration met [current] := by
      unfold nextGeneration
      rw [List.flatMap_singleton]
    rw [List.length_cons, Nat.succ_add, List.cons_append, ascend]
    show ascend _ _ ((hierarchy.parents current).foldl Ascent.meet ⟨met, rest ++ pending⟩) = _
    rw [foldl_meet, above, List.append_assoc, ih, nextGeneration_cons current rest]
    simp

/-- When a walk has dealt with a generation, the next one is pending. -/
theorem ascend_generation {turns : Nat} (enough : generation.length ≤ turns) :
    ascend hierarchy.declared turns ⟨seen, generation⟩ =
      ascend hierarchy.declared (turns - generation.length)
        ⟨seen ++ hierarchy.nextGeneration seen generation,
          hierarchy.nextGeneration seen generation⟩ := by
  have turned := hierarchy.ascend_turns generation seen [] (turns - generation.length)
  rwa [Nat.add_sub_cancel' enough, List.append_nil, List.nil_append] at turned

/-- What is met next counts among what may still be met. -/
theorem length_above_le (hierarchy : Hierarchy) (seen generation : List EventType) :
    (hierarchy.nextGeneration seen generation).length +
        ((named hierarchy.declared).filter
          (· ∉ seen ++ hierarchy.nextGeneration seen generation)).length ≤
      ((named hierarchy.declared).filter (· ∉ seen)).length := by
  have once : (hierarchy.nextGeneration seen generation).Nodup := nodup_eraseDups _
  have unmet : ∀ eventType ∈ hierarchy.nextGeneration seen generation,
      eventType ∈ (named hierarchy.declared).filter (· ∉ seen) := by
    intro eventType member
    obtain ⟨⟨child, -, has⟩, unseen⟩ := mem_nextGeneration.mp member
    exact List.mem_filter.mpr ⟨mem_named_of_hasParent has, decide_eq_true unseen⟩
  generalize hierarchy.nextGeneration seen generation = above at once unmet
  have left : (named hierarchy.declared).filter (· ∉ seen ++ above) =
      ((named hierarchy.declared).filter (· ∉ seen)).filter fun eventType =>
        !decide (eventType ∈ above) := by
    simp [List.filter_filter, Bool.and_comm]
  generalize (named hierarchy.declared).filter (· ∉ seen) = before at unmet left ⊢
  have among : above ⊆ before.filter (· ∈ above) := fun eventType member =>
    List.mem_filter.mpr ⟨unmet eventType member, decide_eq_true member⟩
  rw [left, @List.length_eq_length_filter_add _ before (· ∈ above)]
  exact Nat.add_le_add_right (List.subperm_of_subset once among).length_le _

/-- A walk that begins a generation ends with all generations above it, as long as there are as many
turns as types that are pending or may still be met, and as many generations as declared types that
the earlier ones had not. -/
theorem ascend_eq {height turns : Nat} (fresh : ∀ eventType ∈ generation, eventType ∉ earlier)
    (room : (hierarchy.types.filter (· ∉ earlier)).length ≤ height)
    (enough : generation.length +
      ((named hierarchy.declared).filter (· ∉ earlier ++ generation)).length ≤ turns) :
    ascend hierarchy.declared turns ⟨earlier ++ generation, generation⟩ =
      earlier ++ generation ++
        hierarchy.generations height (earlier ++ generation) generation := by
  induction height generalizing earlier generation turns with
  | zero =>
    have none_above : hierarchy.nextGeneration (earlier ++ generation) generation = [] := by
      by_contra occupied
      exact Nat.not_lt_zero _ (Nat.lt_of_lt_of_le (length_left_lt fresh occupied) room)
    rw [ascend_generation (Nat.le_trans (Nat.le_add_right _ _) enough), none_above,
      ascend_of_none_pending]
    rfl
  | succ height ih =>
    have fewer := @length_left_lt hierarchy earlier generation fresh
    have unseen := @not_mem_of_mem_nextGeneration hierarchy (earlier ++ generation) generation
    have counted := hierarchy.length_above_le (earlier ++ generation) generation
    rw [ascend_generation (Nat.le_trans (Nat.le_add_right _ _) enough), generations]
    generalize hierarchy.nextGeneration (earlier ++ generation) generation = above
      at fewer unseen counted
    cases above with
    | nil => rw [List.append_nil, ascend_of_none_pending]
    | cons first rest =>
      have space := Nat.lt_of_lt_of_le (fewer (List.cons_ne_nil _ _)) room
      rw [ih (fun _ => unseen) (Nat.lt_succ_iff.mp space) (by omega), List.append_assoc]

/-- **The walk goes generation by generation**: the lineage of a type is the type and then the
generations above it. -/
theorem lineage_eq (hierarchy : Hierarchy) (eventType : EventType) :
    hierarchy.lineage eventType =
      eventType :: hierarchy.generations hierarchy.size [eventType] [eventType] := by
  unfold lineage
  rw [hierarchy.lineages_eq, Table.get?_map]
  cases found : hierarchy.declared.get? eventType with
  | some parents =>
    refine @ascend_eq hierarchy [] [eventType] _ _ (fun _ _ => List.not_mem_nil) ?_ ?_
    · exact hierarchy.length_types ▸ List.length_filter_le _ _
    · rw [Nat.add_comm]
      exact Nat.succ_le_succ (List.length_filter_le _ _)
  | none =>
    have none_above : hierarchy.nextGeneration [eventType] [eventType] = [] := by
      unfold nextGeneration parents
      rw [List.flatMap_singleton, found]
      rfl
    rw [generations_of_none none_above]
    rfl

theorem nodup_lineage (hierarchy : Hierarchy) (eventType : EventType) :
    (hierarchy.lineage eventType).Nodup := by
  rw [lineage_eq]
  obtain ⟨distinct, fresh⟩ :=
    hierarchy.generations_fresh hierarchy.size [eventType] [eventType]
  refine List.nodup_cons.mpr ⟨fun member => ?_, distinct⟩
  exact fresh eventType member (List.mem_singleton.mpr rfl)

theorem lineage_of_undeclared {eventType : EventType}
    (undeclared : hierarchy.contains eventType = false) :
    hierarchy.lineage eventType = [eventType] := by
  have absent : eventType ∉ hierarchy.declared.keys := of_decide_eq_false undeclared
  unfold lineage
  rw [hierarchy.lineages_eq, Table.get?_map, Table.get?_eq_none_iff.mpr absent]
  rfl

/-- Every lineage has the type itself, also that of a type without declaration. -/
theorem isAssignable_iff {registered concrete : EventType} :
    hierarchy.isAssignable registered concrete = true ↔
      registered ∈ hierarchy.lineage concrete := by
  have own : concrete ∈ hierarchy.lineage concrete := by
    rw [lineage_eq]
    exact List.mem_cons_self
  unfold isAssignable
  unfold lineage at own ⊢
  cases found : hierarchy.lineages.get? concrete with
  | none => simp
  | some lineage =>
    rw [found] at own
    rw [Bool.or_eq_true, decide_eq_true_iff, Option.any_some, decide_eq_true_iff, Option.getD_some]
    exact or_iff_right_of_imp fun same => same ▸ own

end ExtensionHost.Hierarchy
