/-
**The running order of registrations: by priority, and by number where that is equal.**

* `Registration.RunsStrictlyBefore`: the order between different registrations.
* `runsBefore_trans`, `runsBefore_total`: the order that sorts the receivers is a linear one.
* `eq_of_id`, `eq_of_mem_iff`: in the order of the numbers, numbers tell registrations apart, and
  members tell lists apart.
* `runsStrictlyBefore_byPriority`: to sort by priority is enough when the list is in the order of
  the numbers, because sorting is stable.
-/

import ExtensionHost.Bus.Registration
import Mathlib.Data.List.Sort

namespace ExtensionHost

theorem Priority.rank_injective {first second : Priority} (same : first.rank = second.rank) :
    first = second := by
  cases first <;> cases second <;> simp_all [rank]

namespace Registration

variable {κ : Type}

/-- One registration runs before another: by priority, and by number where that is equal. -/
def RunsStrictlyBefore (first second : Registration κ) : Prop :=
  first.priority < second.priority ∨ first.priority = second.priority ∧ first.id < second.id

theorem runsBefore_iff {first second : Registration κ} :
    first.runsBefore second = true ↔
      first.priority < second.priority ∨
        first.priority = second.priority ∧ first.id ≤ second.id := by
  simp [runsBefore]

theorem runsBefore_trans (first second third : Registration κ)
    (early : first.runsBefore second = true) (late : second.runsBefore third = true) :
    first.runsBefore third = true := by
  rw [runsBefore_iff] at *
  have early_rank : first.priority.rank < second.priority.rank ∨
      first.priority = second.priority ∧ first.id ≤ second.id := early
  have late_rank : second.priority.rank < third.priority.rank ∨
      second.priority = third.priority ∧ second.id ≤ third.id := late
  show first.priority.rank < third.priority.rank ∨ _
  rcases early_rank with early | ⟨same, early⟩ <;> rcases late_rank with late | ⟨equal, late⟩
  · exact .inl (Nat.lt_trans early late)
  · exact .inl (equal ▸ early)
  · exact .inl (same ▸ late)
  · exact .inr ⟨same.trans equal, Nat.le_trans early late⟩

theorem runsBefore_total (first second : Registration κ) :
    (first.runsBefore second || second.runsBefore first) = true := by
  rw [Bool.or_eq_true, runsBefore_iff, runsBefore_iff]
  rcases Nat.lt_trichotomy first.priority.rank second.priority.rank with before | same | after
  · exact .inl (.inl before)
  · have equal := Priority.rank_injective same
    rcases Nat.le_total first.id second.id with low | high
    · exact .inl (.inr ⟨equal, low⟩)
    · exact .inr (.inr ⟨equal.symm, high⟩)
  · exact .inr (.inl after)

theorem runsStrictlyBefore_of_ne {first second : Registration κ}
    (ordered : first.runsBefore second = true) (different : first.id ≠ second.id) :
    first.RunsStrictlyBefore second := by
  rcases runsBefore_iff.mp ordered with earlier | ⟨same, low⟩
  · exact .inl earlier
  · exact .inr ⟨same, Nat.lt_of_le_of_ne low different⟩

/-! ### Numbers -/

theorem nodup_ids {registrations : List (Registration κ)}
    (ascending : registrations.Pairwise fun first second => first.id < second.id) :
    (registrations.map Registration.id).Nodup := by
  rw [List.nodup_iff_pairwise_ne, List.pairwise_map]
  exact ascending.imp Nat.ne_of_lt

theorem eq_of_id {registrations : List (Registration κ)}
    (ascending : registrations.Pairwise fun first second => first.id < second.id)
    {first second : Registration κ} (member : first ∈ registrations)
    (present : second ∈ registrations) (same : first.id = second.id) : first = second :=
  List.inj_on_of_nodup_map (nodup_ids ascending) member present same

theorem id_trans (first second third : Registration κ)
    (early : decide (first.id ≤ second.id) = true)
    (late : decide (second.id ≤ third.id) = true) : decide (first.id ≤ third.id) = true :=
  decide_eq_true (Nat.le_trans (of_decide_eq_true early) (of_decide_eq_true late))

theorem id_total (first second : Registration κ) :
    (decide (first.id ≤ second.id) || decide (second.id ≤ first.id)) = true := by
  rw [Bool.or_eq_true, decide_eq_true_iff, decide_eq_true_iff]
  exact Nat.le_total first.id second.id

/-- Lists in the order of the numbers are told by their members. -/
theorem eq_of_mem_iff {registrations others : List (Registration κ)}
    (ascending : registrations.Pairwise fun first second => first.id < second.id)
    (rising : others.Pairwise fun first second => first.id < second.id)
    (mem_iff : ∀ registration, registration ∈ registrations ↔ registration ∈ others) :
    registrations = others := by
  have irrefl : Std.Irrefl fun first second : Registration κ => first.id < second.id :=
    ⟨fun _ => Nat.lt_irrefl _⟩
  have antisymm : Std.Antisymm fun first second : Registration κ => first.id < second.id :=
    ⟨fun _ _ before after => absurd after (Nat.lt_asymm before)⟩
  exact ascending.eq_of_mem_iff rising mem_iff

/-! ### Sorting by priority -/

theorem priority_trans (first second third : Registration κ)
    (early : decide (first.priority ≤ second.priority) = true)
    (late : decide (second.priority ≤ third.priority) = true) :
    decide (first.priority ≤ third.priority) = true :=
  decide_eq_true (Nat.le_trans (of_decide_eq_true early) (of_decide_eq_true late))

theorem priority_total (first second : Registration κ) :
    (decide (first.priority ≤ second.priority) || decide (second.priority ≤ first.priority)) =
      true := by
  rw [Bool.or_eq_true, decide_eq_true_iff, decide_eq_true_iff]
  exact Nat.le_total first.priority.rank second.priority.rank

/-- The registrations by priority. -/
abbrev byPriority (registrations : List (Registration κ)) : List (Registration κ) :=
  registrations.mergeSort fun first second => first.priority ≤ second.priority

/-- Sorting by priority leaves the registrations of one priority in their order. -/
theorem filter_byPriority (registrations : List (Registration κ)) (priority : Priority) :
    (byPriority registrations).filter (·.priority = priority) =
      registrations.filter (·.priority = priority) := by
  have level : (registrations.filter (·.priority = priority)).Pairwise
      fun first second => decide (first.priority ≤ second.priority) = true := by
    refine List.pairwise_filter.mpr (List.pairwise_of_forall fun first second early late => ?_)
    refine decide_eq_true (Nat.le_of_eq ?_)
    rw [of_decide_eq_true early, of_decide_eq_true late]
  have kept := List.sublist_mergeSort priority_trans priority_total level List.filter_sublist
  have within := kept.filter (·.priority = priority)
  simp only [List.filter_filter, Bool.and_self] at within
  have perm : (byPriority registrations).Perm registrations := List.mergeSort_perm _ _
  exact (within.eq_of_length (perm.filter _).length_eq.symm).symm

theorem runsStrictlyBefore_byPriority {registrations : List (Registration κ)}
    (increasing : registrations.Pairwise fun first second => first.id < second.id) :
    (byPriority registrations).Pairwise RunsStrictlyBefore := by
  have ordered : (byPriority registrations).Pairwise
      fun first second => decide (first.priority ≤ second.priority) = true :=
    List.pairwise_mergeSort priority_trans priority_total _
  rw [List.pairwise_iff_forall_sublist] at ordered ⊢
  intro first second pair
  rcases Nat.lt_or_eq_of_le (of_decide_eq_true (ordered pair)) with earlier | level
  · exact .inl earlier
  · -- two of one priority stand as they stood before
    have same := Priority.rank_injective level
    have among := pair.filter (·.priority = second.priority)
    rw [filter_byPriority] at among
    simp only [same, decide_true, List.filter_cons_of_pos, List.filter_nil] at among
    have before := List.pairwise_iff_forall_sublist.mp (increasing.filter _) among
    exact .inr ⟨same, before⟩

/-! ### One list only -/

instance : Std.Irrefl (RunsStrictlyBefore (κ := κ)) where
  irrefl registration before := by
    rcases before with earlier | ⟨-, lower⟩
    · exact Nat.lt_irrefl registration.priority.rank earlier
    · exact Nat.lt_irrefl _ lower

instance : Std.Antisymm (RunsStrictlyBefore (κ := κ)) where
  antisymm first second before after := by
    rcases before with earlier | ⟨same, lower⟩ <;> rcases after with later | ⟨equal, higher⟩
    · exact absurd earlier (Nat.lt_asymm later)
    · exact absurd (equal ▸ earlier) (Nat.lt_irrefl first.priority.rank)
    · exact absurd (same ▸ later) (Nat.lt_irrefl second.priority.rank)
    · exact absurd lower (Nat.lt_asymm higher)

end Registration

end ExtensionHost
