/-
**Relations that lead in a circle, and orders that rule it out.**

* `Circular`: some element leads back to itself, in one step or more.
* `ClosedPath`: a path back to its start that meets no other element twice.
* `Precedes`: one element stands before another in a list.
* `ClosedPath.circular`: a closed path is a circle.
* `precedes_of_transGen`: where every element stands after those it leads to in one step, it stands
  after all that it leads to.
* `not_circular_of_precedes`: so there is no circle.
-/

import Mathlib.Data.List.Chain
import Mathlib.Data.List.Nodup
import Mathlib.Logic.Relation

namespace ExtensionHost

open Relation (TransGen)

variable {N : Type}

/-- Some element leads back to itself, in one step or more. -/
def Circular (leads : N → N → Prop) : Prop :=
  ∃ node, TransGen leads node node

/-- A path that ends where it starts, meets no other element twice, and goes one step at a time. -/
def ClosedPath (leads : N → N → Prop) (path : List N) : Prop :=
  ∃ node rest, path = node :: rest ++ [node] ∧ (node :: rest).Nodup ∧ path.IsChain leads

/-- One element stands before another in a list. -/
def Precedes (order : List N) (first second : N) : Prop :=
  [first, second].Sublist order

theorem Circular.mono {leads other : N → N → Prop} (circular : Circular leads)
    (weaker : ∀ a b, leads a b → other a b) : Circular other := by
  obtain ⟨node, circle⟩ := circular
  exact ⟨node, TransGen.mono weaker _ _ circle⟩

/-! ### Closed paths -/

/-- A path of more than one element leads from its first to its last. -/
theorem transGen_of_isChain {leads : N → N → Prop} (last : N) :
    ∀ (first : N) (between : List N), (first :: between ++ [last]).IsChain leads →
      TransGen leads first last := by
  intro first between
  induction between generalizing first with
  | nil =>
    intro chain
    exact .single (List.isChain_cons_cons.mp chain).1
  | cons second rest ih =>
    intro chain
    obtain ⟨step, onwards⟩ := List.isChain_cons_cons.mp chain
    exact .head step (ih second onwards)

theorem ClosedPath.circular {leads : N → N → Prop} {path : List N}
    (closed : ClosedPath leads path) : Circular leads := by
  obtain ⟨node, rest, rfl, -, chain⟩ := closed
  exact ⟨node, transGen_of_isChain node node rest chain⟩

theorem ClosedPath.mono {leads other : N → N → Prop} {path : List N}
    (closed : ClosedPath leads path) (weaker : ∀ a b, leads a b → other a b) :
    ClosedPath other path := by
  obtain ⟨node, rest, shape, nodup, chain⟩ := closed
  exact ⟨node, rest, shape, nodup, chain.imp weaker⟩

/-! ### Orders -/

namespace Precedes

theorem iff_split {order : List N} {first second : N} :
    Precedes order first second ↔
      ∃ before after, order = before ++ after ∧ first ∈ before ∧ second ∈ after := by
  unfold Precedes
  rw [List.cons_sublist_iff]
  simp only [List.singleton_sublist]

theorem of_shorter {order longer : List N} {first second : N}
    (precedes : Precedes order first second) (grown : order <+: longer) :
    Precedes longer first second :=
  List.Sublist.trans precedes grown.sublist

/-- Whatever is in a list stands before an element that is put at its end. -/
theorem snoc {order : List N} {first second : N} (member : first ∈ order) :
    Precedes (order ++ [second]) first second :=
  iff_split.mpr ⟨order, [second], rfl, member, by simp⟩

theorem trans {order : List N} {first second third : N} (nodup : order.Nodup)
    (earlier : Precedes order first second) (later : Precedes order second third) :
    Precedes order first third := by
  obtain ⟨before, after, rfl, memFirst, memSecond⟩ := iff_split.mp earlier
  obtain ⟨upTo, beyond, same, memUpTo, memThird⟩ := iff_split.mp later
  rcases List.append_eq_append_iff.mp same with ⟨between, rfl, rfl⟩ | ⟨between, rfl, rfl⟩
  · exact iff_split.mpr ⟨before, between ++ beyond, rfl, memFirst, by simp [memThird]⟩
  · -- The second element would stand on both sides of the first split.
    have disjoint := List.disjoint_of_nodup_append nodup
    exact absurd memSecond (disjoint (List.mem_append_left _ memUpTo))

theorem or_of_mem {order : List N} {first second : N} (member : first ∈ order)
    (present : second ∈ order) (different : first ≠ second) :
    Precedes order first second ∨ Precedes order second first := by
  obtain ⟨before, after, rfl⟩ := List.append_of_mem member
  rcases List.mem_append.mp present with early | late
  · exact .inr (iff_split.mpr ⟨before, first :: after, rfl, early, List.mem_cons_self⟩)
  · have beyond := (List.mem_cons.mp late).resolve_left different.symm
    exact .inl (iff_split.mpr ⟨before ++ [first], after, by simp, by simp, beyond⟩)

/-- In a list in order, what may not stand behind another element stands before it. -/
theorem of_pairwise {order : List N} {before : N → N → Prop} (ordered : order.Pairwise before)
    {first second : N} (member : first ∈ order) (present : second ∈ order)
    (different : first ≠ second) (never : ¬ before second first) : Precedes order first second :=
  (or_of_mem member present different).resolve_right fun after =>
    never (List.pairwise_iff_forall_sublist.mp ordered after)

end Precedes

/-- Where every element of a list stands after all that it leads to, it stands after all that it
leads to in any number of steps. -/
theorem precedes_of_transGen {leads : N → N → Prop} {order : List N} (nodup : order.Nodup)
    (sorted : ∀ source ∈ order, ∀ target, leads source target → Precedes order target source)
    {source target : N} (member : source ∈ order) (path : TransGen leads source target) :
    Precedes order target source := by
  induction path with
  | single step => exact sorted _ member _ step
  | tail _ step ih =>
    have between := List.Sublist.subset ih List.mem_cons_self
    exact (sorted _ between _ step).trans nodup ih

/-- **No circle in an order.** Where every element stands after all that it leads to, none leads
back to itself. -/
theorem not_circular_of_precedes {leads : N → N → Prop} {order : List N} (nodup : order.Nodup)
    (sorted : ∀ source target, leads source target → Precedes order target source) :
    ¬ Circular leads := by
  rintro ⟨node, circle⟩
  obtain ⟨next, step, -⟩ := TransGen.head'_iff.mp circle
  have member := List.Sublist.subset (sorted _ _ step) (List.mem_cons_of_mem _ List.mem_cons_self)
  exact List.nodup_iff_sublist.mp nodup node
    (precedes_of_transGen nodup (fun source _ => sorted source) member circle)

/-- In an order no element leads to a later one. -/
theorem pairwise_not_transGen {leads : N → N → Prop} {order : List N} (nodup : order.Nodup)
    (sorted : ∀ source target, leads source target → Precedes order target source) :
    order.Pairwise fun first second => ¬ TransGen leads first second := by
  rw [List.pairwise_iff_forall_sublist]
  intro first second before path
  have after := precedes_of_transGen nodup (fun source _ => sorted source)
    (before.subset List.mem_cons_self) path
  exact List.nodup_iff_sublist.mp nodup first (Precedes.trans nodup before after)

end ExtensionHost
