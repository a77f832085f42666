/-
**A bus and a roster that hold the same registrations.**

* `Bus.Matches`: the bus is coherent, and each of its sets is what a filter by event type makes of
  the roster.
* `Matches.find?_eq`, `Matches.receivers_eq`, `Matches.subscriberCount_eq` and their like: both give
  the same answers.
* `Matches.of_gains`, `Matches.revoke`, `Matches.sweep`, `Matches.counted`: they still match after
  an operation of both.
-/

import ExtensionHost.Proofs.Bus.Coherence
import ExtensionHost.Proofs.Bus.Roster

namespace ExtensionHost.Bus

open Roster (Seat)

variable {ε κ : Type}

/-- The bus holds what stands on the roster. -/
structure Matches (bus : Bus κ) (roster : Roster κ) : Prop where
  coherent : bus.Coherent
  hierarchy : roster.hierarchy = bus.hierarchy
  nextId : roster.nextId = bus.nextId
  handles : roster.handles = bus.handles
  running : roster.running = bus.running
  increasing : roster.registrations.Pairwise fun first second => first.id < second.id
  setOf : ∀ eventType, bus.setOf eventType = roster.registrations.filter (·.eventType = eventType)
  standing : ∀ seat ∈ roster.seats,
    bus.standing seat.registration.id = { live := true, remaining := seat.remaining }

theorem matches_start (hierarchy : Hierarchy) :
    ({ hierarchy } : Bus κ).Matches { hierarchy } where
  coherent := coherent_start hierarchy
  hierarchy := rfl
  nextId := rfl
  handles := rfl
  running := rfl
  increasing := List.Pairwise.nil
  setOf _ := rfl
  standing _ member := absurd member List.not_mem_nil

namespace Matches

variable {bus later : Bus κ} {roster : Roster κ}

/-! ### Answers -/

theorem mem_setOf (matching : bus.Matches roster) {eventType : EventType}
    {registration : Registration κ} :
    registration ∈ bus.setOf eventType ↔
      registration ∈ roster.registrations ∧ registration.eventType = eventType := by
  rw [matching.setOf, List.mem_filter, decide_eq_true_iff]

theorem exists_mem_setOf (matching : bus.Matches roster) {registration : Registration κ} :
    (∃ eventType, registration ∈ bus.setOf eventType) ↔
      registration ∈ roster.registrations := by
  constructor
  · rintro ⟨eventType, member⟩
    exact (matching.mem_setOf.mp member).1
  · exact fun member => ⟨registration.eventType, matching.mem_setOf.mpr ⟨member, rfl⟩⟩

theorem find?_eq (matching : bus.Matches roster) (subscription : Subscription) :
    roster.find? subscription = bus.find? subscription := by
  have alive : bus.isAlive = true ↔ 0 < roster.handles ∨ 0 < roster.running := by
    rw [matching.handles, matching.running]
    simp [isAlive]
  unfold Roster.find? find?
  rw [matching.setOf, List.find?_filter]
  refine if_congr alive.symm (congrArg (List.find? · roster.registrations) ?_) rfl
  funext registration
  rw [decide_eq_decide, decide_eq_true_iff, decide_eq_true_iff, Registration.subscription,
    Subscription.mk.injEq]

theorem isActive_eq (matching : bus.Matches roster) (subscription : Subscription) :
    (roster.find? subscription).isSome = bus.isActive subscription := by
  rw [matching.find?_eq]
  rfl

theorem isPresent_eq (matching : bus.Matches roster) (id : Nat) :
    roster.isPresent id = (bus.standing id).live := by
  rw [Bool.eq_iff_iff, matching.coherent.live_iff]
  unfold Roster.isPresent
  rw [List.any_eq_true]
  constructor
  · rintro ⟨registration, member, same⟩
    exact ⟨_, registration, matching.mem_setOf.mpr ⟨member, rfl⟩, of_decide_eq_true same⟩
  · rintro ⟨eventType, registration, member, same⟩
    exact ⟨registration, (matching.mem_setOf.mp member).1, decide_eq_true same⟩

theorem mem_interested (matching : bus.Matches roster) {eventType : EventType}
    {registration : Registration κ} :
    registration ∈ roster.interested eventType ↔
      ∃ ancestor ∈ bus.hierarchy.lineage eventType, registration ∈ bus.setOf ancestor := by
  unfold Roster.interested
  rw [List.mem_filter, matching.hierarchy]
  constructor
  · rintro ⟨member, assignable⟩
    exact ⟨_, Hierarchy.isAssignable_iff.mp assignable, matching.mem_setOf.mpr ⟨member, rfl⟩⟩
  · rintro ⟨ancestor, present, member⟩
    obtain ⟨stands, rfl⟩ := matching.mem_setOf.mp member
    exact ⟨stands, Hierarchy.isAssignable_iff.mpr present⟩

theorem lists_receivers (matching : bus.Matches roster) {eventType : EventType}
    (declared : bus.hierarchy.contains eventType = true) :
    bus.Lists eventType (roster.receivers eventType) := by
  unfold Roster.receivers
  rw [matching.hierarchy, if_pos declared]
  refine ⟨declared, fun registration => ?_, ?_⟩
  · rw [List.mem_mergeSort]
    exact matching.mem_interested
  · exact Registration.runsStrictlyBefore_byPriority (matching.increasing.filter _)

/-- What the bus knows or computes is what sorting the roster gives. -/
theorem receivers_eq (matching : bus.Matches roster) (eventType : EventType) :
    roster.receivers eventType = (bus.receivers eventType).list := by
  by_cases declared : bus.hierarchy.contains eventType = true
  · have right := matching.coherent.lists_receivers declared
    have plain := matching.lists_receivers declared
    refine plain.increasing.eq_of_mem_iff right.increasing fun registration => ?_
    rw [plain.mem_iff, right.mem_iff]
  · unfold Roster.receivers receivers
    rw [matching.hierarchy, if_neg declared, if_neg declared]

theorem subscriberCount_eq (matching : bus.Matches roster) (eventType : EventType) :
    (roster.interested eventType).length = bus.subscriberCount eventType := by
  have once : (roster.interested eventType).Nodup :=
    (matching.increasing.filter _).imp fun lower same => Nat.ne_of_lt lower (congrArg _ same)
  exact matching.coherent.toSound.length_eq_subscriberCount once fun _ => matching.mem_interested

theorem isSubscribed_eq (matching : bus.Matches roster) (eventType : EventType) :
    (!(roster.interested eventType).isEmpty) = bus.isSubscribed eventType := by
  unfold isSubscribed
  rw [← matching.subscriberCount_eq]
  cases roster.interested eventType <;> simp

/-! ### Operations -/

/-- The seat of a new registration. -/
abbrev seatOf (registration : Registration κ) : Seat κ where
  registration
  remaining := registration.subscriber.limit.map Subtype.val

theorem of_gains (matching : bus.Matches roster) {registration : Registration κ}
    (gains : bus.Gains registration later) :
    later.Matches { roster with
      seats := roster.seats ++ [seatOf registration], nextId := roster.nextId + 1 } := by
  have appended : (roster.seats ++ [seatOf registration]).map Seat.registration =
      roster.registrations ++ [registration] := List.map_append
  have lower : ∀ old ∈ roster.registrations, old.id < registration.id := by
    intro old member
    rw [gains.id_eq]
    exact matching.coherent.numbered (matching.mem_setOf.mpr ⟨member, rfl⟩)
  refine ⟨matching.coherent.of_gains gains, ?_, ?_, ?_, ?_, ?_, fun eventType => ?_, ?_⟩
  · exact matching.hierarchy.trans gains.hierarchy.symm
  · rw [gains.nextId, matching.nextId]
  · exact matching.handles.trans gains.handles.symm
  · exact matching.running.trans gains.running.symm
  · show (List.map _ _).Pairwise _
    rw [appended, List.pairwise_append]
    refine ⟨matching.increasing, List.pairwise_singleton _ _, fun old member new last => ?_⟩
    rw [List.mem_singleton.mp last]
    exact lower old member
  · show _ = (List.map _ _).filter _
    rw [appended, gains.setOf, matching.setOf, List.filter_append]
    split
    · rename_i same
      rw [List.filter_singleton, same, decide_eq_true rfl, cond_true]
    · rename_i different
      rw [List.filter_singleton, decide_eq_false fun same => different same.symm, cond_false,
        List.append_nil]
  · intro seat member
    rw [gains.standing]
    rcases List.mem_append.mp member with old | new
    · have below := lower _ (List.mem_map_of_mem old)
      rw [if_neg (Nat.ne_of_lt below), matching.standing seat old]
    · rw [List.mem_singleton.mp new, if_pos rfl]
      rfl

theorem of_loses (matching : bus.Matches roster) {gone : Nat → Bool} {kept : Seat κ → Bool}
    (loses : bus.Loses gone later) (coherent : later.Coherent)
    (same : ∀ seat ∈ roster.seats, kept seat = !gone seat.registration.id) :
    later.Matches (roster.keep kept) := by
  have left : (roster.keep kept).registrations =
      roster.registrations.filter (!gone ·.id) := by
    unfold Roster.keep Roster.registrations
    rw [List.filter_congr same, List.filter_map]
    rfl
  refine ⟨coherent, ?_, ?_, ?_, ?_, ?_, fun eventType => ?_, fun seat member => ?_⟩
  · exact matching.hierarchy.trans loses.hierarchy.symm
  · exact matching.nextId.trans loses.nextId.symm
  · exact matching.handles.trans loses.handles.symm
  · exact matching.running.trans loses.running.symm
  · rw [left]
    exact matching.increasing.filter _
  · rw [left, loses.setOf, matching.setOf, List.filter_filter, List.filter_filter]
    exact List.filter_congr fun _ _ => Bool.and_comm _ _
  · obtain ⟨old, stays⟩ := List.mem_filter.mp member
    rw [same seat old, Bool.not_eq_true'] at stays
    rw [loses.standing, stays, if_neg Bool.false_ne_true, matching.standing seat old]

theorem revoke_of_none (matching : bus.Matches roster) {subscription : Subscription}
    (absent : bus.revoke? subscription = none) :
    (roster.revoke subscription : Roster.Effect ε κ Bool) = { answer := false, roster } := by
  have missing : bus.find? subscription = none := Option.map_eq_none_iff.mp absent
  unfold Roster.revoke
  rw [matching.find?_eq, missing]

theorem revoke_of_some (matching : bus.Matches roster) {subscription : Subscription}
    {registration : Registration κ}
    (found : bus.revoke? subscription = some (registration, later)) :
    ∃ left : Roster κ, later.Matches left ∧
      (roster.revoke subscription : Roster.Effect ε κ Bool) =
        { answer := true, roster := left, activities := [.revoked registration] } := by
  obtain ⟨present, -⟩ := revoke?_eq_some found
  refine ⟨roster.keep (·.registration.id ≠ subscription.id), ?_, ?_⟩
  · have loses := matching.coherent.toSound.loses_revoked found
    exact matching.of_loses loses (matching.coherent.of_revoke found) fun _ _ => decide_not
  · unfold Roster.revoke
    rw [matching.find?_eq, present]

theorem withHandles (matching : bus.Matches roster) (handles : Nat) :
    ({ bus with handles } : Bus κ).Matches { roster with handles } :=
  { matching with coherent := matching.coherent.hold handles bus.running, handles := rfl }

theorem withRunning (matching : bus.Matches roster) (running : Nat) :
    ({ bus with running } : Bus κ).Matches { roster with running } :=
  { matching with coherent := matching.coherent.hold bus.handles running, running := rfl }

theorem receivers (matching : bus.Matches roster) (eventType : EventType) :
    (bus.receivers eventType).bus.Matches roster := by
  have coherent := matching.coherent.of_receivers eventType
  obtain ⟨cache, same⟩ := bus.receivers_bus eventType
  rw [same] at coherent ⊢
  exact { matching with coherent }

/-! ### Taking away by a predicate -/

theorem isMatch_eq (matching : bus.Matches roster) {seat : Seat κ}
    (member : seat ∈ roster.seats) (selector : Selector κ) :
    bus.isMatch selector seat.registration = seat.matched selector := by
  unfold isMatch Seat.matched Seat.ask
  rw [matching.standing seat member]

variable {selector : Selector κ} {order : SetOrder}

theorem panic?_eq_none (matching : bus.Matches roster)
    (calm : (bus.sweep selector order).panic = none) :
    roster.seats.findSome? (·.panic? selector) = none := by
  rw [List.findSome?_eq_none_iff]
  intro seat member
  have asked : seat.registration ∈ bus.visited order :=
    mem_visited.mpr (matching.exists_mem_setOf.mpr (List.mem_map_of_mem member))
  obtain ⟨answer, same⟩ := (select_of_calm calm).2 _ asked
  rw [matching.standing seat member] at same
  unfold Seat.panic? Seat.ask
  rw [same]

theorem mem_removed (matching : bus.Matches roster)
    (calm : (bus.sweep selector order).panic = none) {registration : Registration κ} :
    registration ∈ (bus.sweep selector order).removed ↔
      ∃ seat ∈ roster.seats, seat.registration = registration ∧ seat.matched selector = true := by
  rw [removed_of_calm calm, List.mem_filter, mem_visited, matching.exists_mem_setOf]
  constructor
  · rintro ⟨member, matched⟩
    obtain ⟨seat, stands, rfl⟩ := List.mem_map.mp member
    exact ⟨seat, stands, rfl, matching.isMatch_eq stands selector ▸ matched⟩
  · rintro ⟨seat, stands, rfl, matched⟩
    exact ⟨List.mem_map_of_mem stands, (matching.isMatch_eq stands selector).trans matched⟩

theorem seat_eq (matching : bus.Matches roster) {seat other : Seat κ}
    (member : seat ∈ roster.seats) (present : other ∈ roster.seats)
    (same : seat.registration.id = other.registration.id) : seat = other := by
  have distinct : (roster.seats.map fun seat => seat.registration.id).Nodup := by
    rw [List.nodup_iff_pairwise_ne, List.pairwise_map]
    exact (List.pairwise_map.mp matching.increasing).imp Nat.ne_of_lt
  exact List.inj_on_of_nodup_map distinct member present same

theorem nodup_removed (matching : bus.Matches roster)
    (calm : (bus.sweep selector order).panic = none) :
    (bus.sweep selector order).removed.Nodup := by
  rw [removed_of_calm calm]
  exact (List.Nodup.of_map _ (matching.coherent.toSound.nodup_visited order)).filter _

theorem length_removed (matching : bus.Matches roster)
    (calm : (bus.sweep selector order).panic = none) :
    (bus.sweep selector order).removed.length = roster.seats.countP (·.matched selector) := by
  have once : roster.registrations.Nodup :=
    matching.increasing.imp fun lower same => Nat.ne_of_lt lower (congrArg _ same)
  have some_once : ((roster.seats.filter (·.matched selector)).map Seat.registration).Nodup :=
    once.sublist (List.filter_sublist.map _)
  rw [List.countP_eq_length_filter, ← List.length_map Seat.registration]
  refine ((List.perm_ext_iff_of_nodup (matching.nodup_removed calm) some_once).mpr ?_).length_eq
  intro registration
  rw [matching.mem_removed calm, List.mem_map]
  constructor
  · rintro ⟨seat, member, same, matched⟩
    exact ⟨seat, List.mem_filter.mpr ⟨member, matched⟩, same⟩
  · rintro ⟨seat, kept, same⟩
    obtain ⟨member, matched⟩ := List.mem_filter.mp kept
    exact ⟨seat, member, same, matched⟩

theorem keep_matched (matching : bus.Matches roster)
    (calm : (bus.sweep selector order).panic = none) :
    (bus.sweep selector order).bus.Matches (roster.keep (!·.matched selector)) := by
  refine matching.of_loses (bus.loses_sweep selector order) (matching.coherent.of_sweep calm) ?_
  intro seat member
  refine congrArg Bool.not (Bool.eq_iff_iff.mpr ?_)
  rw [List.any_eq_true]
  constructor
  · intro matched
    exact ⟨_, (matching.mem_removed calm).mpr ⟨seat, member, rfl, matched⟩, decide_eq_true rfl⟩
  · rintro ⟨registration, removed, same⟩
    obtain ⟨other, present, rfl, matched⟩ := (matching.mem_removed calm).mp removed
    rw [← matching.seat_eq present member (of_decide_eq_true same)]
    exact matched

/-! ### Counting -/

theorem registrations_counted (roster : Roster κ) (id : Nat) :
    (roster.counted id).registrations = roster.registrations := by
  unfold Roster.registrations Roster.counted
  rw [List.map_map]
  refine List.map_congr_left fun seat _ => ?_
  show (if seat.registration.id = id then _ else seat).registration = seat.registration
  split <;> rfl

theorem counted (matching : bus.Matches roster) (id : Nat) :
    (bus.countInvocation id).Matches (roster.counted id) := by
  refine ⟨matching.coherent.of_countInvocation id, matching.hierarchy, matching.nextId,
    matching.handles, matching.running, ?_, fun eventType => ?_, fun seat member => ?_⟩
  · rw [registrations_counted]
    exact matching.increasing
  · rw [registrations_counted]
    exact matching.setOf eventType
  · obtain ⟨old, stands, rfl⟩ := List.mem_map.mp member
    have before := matching.standing old stands
    rw [standing_countInvocation]
    by_cases target : old.registration.id = id
    · rw [if_pos target, if_pos target, before]
      rfl
    · rw [if_neg target, if_neg target, before]

theorem last_iff (matching : bus.Matches roster) {registration : Registration κ} :
    roster.seats.any (fun seat =>
      seat.registration.id = registration.id && seat.remaining = some 1) = true ↔
    roster.isPresent registration.id = true ∧
      (bus.standing registration.id).remaining = some 1 := by
  unfold Roster.isPresent Roster.registrations
  rw [List.any_eq_true, List.any_map, List.any_eq_true]
  constructor
  · rintro ⟨seat, member, last⟩
    obtain ⟨same, one⟩ := Bool.and_eq_true_iff.mp last
    refine ⟨⟨seat, member, same⟩, ?_⟩
    rw [← of_decide_eq_true same, matching.standing seat member]
    exact of_decide_eq_true one
  · rintro ⟨⟨seat, member, same⟩, one⟩
    refine ⟨seat, member, Bool.and_eq_true_iff.mpr ⟨same, decide_eq_true ?_⟩⟩
    have same_id : seat.registration.id = registration.id := of_decide_eq_true same
    rw [← same_id, matching.standing seat member] at one
    exact one

end Matches

end ExtensionHost.Bus
