/-
**What each operation makes of the registrations on a bus.**

* `Bus.Holds`: a registration with a given number is on the bus.
* `Bus.Gains`: the later bus has one registration more, under a new number.
* `Bus.Loses`: the later bus lacks the registrations whose numbers are gone, and no others.
* `gains_of_subscribeTo`, `loses_of_revoke`, `loses_sweep`: the operations are of these two kinds.
* `visited_perm`: a sweep asks about the same registrations in any order.
* `standing_countInvocation`, `receivers_bus`: the others leave the registrations alone.
-/

import ExtensionHost.Bus.Basic
import ExtensionHost.Table.Lemmas

namespace ExtensionHost.Bus

variable {κ : Type}

/-- A registration with this number stands in some set. -/
def Holds (bus : Bus κ) (id : Nat) : Prop :=
  ∃ eventType, ∃ registration ∈ bus.setOf eventType, registration.id = id

/-- The registration with which a subscriber comes onto a bus. -/
def newcomer (bus : Bus κ) (eventType : EventType) (subscriber : Subscriber κ) :
    Registration κ where
  id := bus.nextId
  eventType
  subscriber

/-- The later bus has one registration more. -/
structure Gains (bus : Bus κ) (registration : Registration κ) (later : Bus κ) : Prop where
  /-- Its type is declared. -/
  declared : bus.hierarchy.contains registration.eventType = true
  /-- Its number is the next one. -/
  id_eq : registration.id = bus.nextId
  hierarchy : later.hierarchy = bus.hierarchy
  nextId : later.nextId = bus.nextId + 1
  handles : later.handles = bus.handles
  running : later.running = bus.running
  /-- Receivers have to be computed again. -/
  cache : later.cache = ∅
  get? : ∀ eventType, later.sets.get? eventType =
    if eventType = registration.eventType then some (bus.setOf eventType ++ [registration])
    else bus.sets.get? eventType
  standing : ∀ id, later.standing id =
    if id = registration.id then .initial registration.subscriber else bus.standing id

/-- The later bus lacks the registrations whose numbers are gone. -/
structure Loses (bus : Bus κ) (gone : Nat → Bool) (later : Bus κ) : Prop where
  hierarchy : later.hierarchy = bus.hierarchy
  nextId : later.nextId = bus.nextId
  handles : later.handles = bus.handles
  running : later.running = bus.running
  setOf : ∀ eventType, later.setOf eventType = (bus.setOf eventType).filter (!gone ·.id)
  standing : ∀ id,
    later.standing id = if gone id then (bus.standing id).expire else bus.standing id

/-! ### Registering -/

theorem Gains.setOf {bus later : Bus κ} {registration : Registration κ}
    (gains : bus.Gains registration later) (eventType : EventType) :
    later.setOf eventType =
      if eventType = registration.eventType then bus.setOf eventType ++ [registration]
      else bus.setOf eventType := by
  unfold Bus.setOf
  rw [gains.get?]
  split <;> rfl

theorem Gains.mem_setOf {bus later : Bus κ} {registration other : Registration κ}
    (gains : bus.Gains registration later) {eventType : EventType} :
    other ∈ later.setOf eventType ↔ other ∈ bus.setOf eventType ∨
      other = registration ∧ eventType = registration.eventType := by
  rw [gains.setOf]
  split
  · rename_i same
    simp [same]
  · rename_i different
    simp [different]

theorem Gains.holds_iff {bus later : Bus κ} {registration : Registration κ}
    (gains : bus.Gains registration later) (id : Nat) :
    later.Holds id ↔ id = registration.id ∨ bus.Holds id := by
  constructor
  · rintro ⟨eventType, other, member, rfl⟩
    rcases gains.mem_setOf.mp member with old | ⟨rfl, -⟩
    · exact .inr ⟨eventType, other, old, rfl⟩
    · exact .inl rfl
  · rintro (rfl | ⟨eventType, other, member, rfl⟩)
    · exact ⟨_, registration, gains.mem_setOf.mpr (.inr ⟨rfl, rfl⟩), rfl⟩
    · exact ⟨eventType, other, gains.mem_setOf.mpr (.inl member), rfl⟩

theorem gains_of_subscribeTo {bus later : Bus κ} {eventType : EventType}
    {subscriber : Subscriber κ} {registration : Registration κ}
    (accepted : bus.subscribeTo eventType subscriber = .ok (registration, later)) :
    registration = bus.newcomer eventType subscriber ∧ bus.Gains registration later := by
  unfold subscribeTo at accepted
  split at accepted
  · rename_i declared
    obtain ⟨rfl, rfl⟩ := Prod.mk.inj (Except.ok.inj accepted)
    refine ⟨rfl, ⟨declared, rfl, rfl, rfl, rfl, rfl, rfl, fun other => ?_, fun id => ?_⟩⟩
    · show (bus.sets.insert _ _).get? other = _
      rw [Table.get?_insert]
      split
      · rename_i same
        rw [same]
      · rfl
    · show ((bus.standings.insert _ _).get? id).getD _ = _
      rw [Table.get?_insert]
      split <;> rfl
  · cases accepted

theorem subscribeTo_cases (bus : Bus κ) (eventType : EventType) (subscriber : Subscriber κ) :
    (∃ later, bus.subscribeTo eventType subscriber =
      .ok (bus.newcomer eventType subscriber, later)) ∨
    (bus.hierarchy.contains eventType = false ∧
      bus.subscribeTo eventType subscriber = .error (.undeclaredEventType eventType)) := by
  unfold subscribeTo
  split
  · exact .inl ⟨_, rfl⟩
  · rename_i undeclared
    exact .inr ⟨Bool.eq_false_iff.mpr undeclared, rfl⟩

/-! ### Taking away -/

theorem Loses.mem_setOf {bus later : Bus κ} {gone : Nat → Bool} (loses : bus.Loses gone later)
    {eventType : EventType} {registration : Registration κ} :
    registration ∈ later.setOf eventType ↔
      registration ∈ bus.setOf eventType ∧ gone registration.id = false := by
  rw [loses.setOf, List.mem_filter, Bool.not_eq_true']

theorem Loses.holds_iff {bus later : Bus κ} {gone : Nat → Bool} (loses : bus.Loses gone later)
    (id : Nat) : later.Holds id ↔ bus.Holds id ∧ gone id = false := by
  constructor
  · rintro ⟨eventType, registration, member, rfl⟩
    obtain ⟨stored, stays⟩ := loses.mem_setOf.mp member
    exact ⟨⟨eventType, registration, stored, rfl⟩, stays⟩
  · rintro ⟨⟨eventType, registration, stored, rfl⟩, stays⟩
    exact ⟨eventType, registration, loses.mem_setOf.mpr ⟨stored, stays⟩, rfl⟩

theorem get?_setSet (bus : Bus κ) (eventType other : EventType)
    (registrations : List (Registration κ)) :
    (bus.setSet eventType registrations).get? other =
      if other = eventType then if registrations.isEmpty then none else some registrations
      else bus.sets.get? other := by
  unfold setSet
  cases registrations.isEmpty with
  | true => exact Table.get?_erase _ _ _
  | false => exact Table.get?_insert _ _ _ _

theorem getD_setSet (bus : Bus κ) (eventType other : EventType)
    (registrations : List (Registration κ)) :
    ((bus.setSet eventType registrations).get? other).getD [] =
      if other = eventType then registrations else bus.setOf other := by
  rw [get?_setSet]
  split
  · split
    · rename_i empty
      exact (List.isEmpty_iff.mp empty).symm
    · rfl
  · rfl

theorem revoke?_eq_some {bus later : Bus κ} {subscription : Subscription}
    {registration : Registration κ}
    (found : bus.revoke? subscription = some (registration, later)) :
    bus.find? subscription = some registration ∧
      later = { bus with
        sets := bus.setSet subscription.eventType
          ((bus.setOf subscription.eventType).filter (·.id ≠ subscription.id))
        cache := ∅
        standings := bus.standings.modify subscription.id .expire } := by
  unfold revoke? at found
  obtain ⟨present, member, same⟩ := Option.map_eq_some_iff.mp found
  obtain ⟨rfl, rfl⟩ := Prod.mk.inj same
  exact ⟨member, rfl⟩

theorem mem_of_find? {bus : Bus κ} {subscription : Subscription} {registration : Registration κ}
    (found : bus.find? subscription = some registration) :
    registration ∈ bus.setOf subscription.eventType ∧ registration.id = subscription.id := by
  unfold find? at found
  split at found
  · exact ⟨List.mem_of_find?_eq_some found, by simpa using List.find?_some found⟩
  · cases found

theorem standing_modify (bus : Bus κ) (target id : Nat) (change : Standing → Standing)
    (settled : change { live := false, remaining := none } = { live := false, remaining := none }) :
    ((bus.standings.modify target change).get? id).getD { live := false, remaining := none } =
      if id = target then change (bus.standing id) else bus.standing id := by
  rw [Table.get?_modify]
  unfold standing
  split
  · cases bus.standings.get? id with
    | none => exact settled.symm
    | some stored => rfl
  · rfl

/-- A revoked registration is taken from its own set; `apart` says that no other has its number. -/
theorem loses_of_revoke {bus later : Bus κ} {subscription : Subscription}
    {registration : Registration κ}
    (apart : ∀ {eventType other}, other ∈ bus.setOf eventType → other.id = subscription.id →
      eventType = subscription.eventType)
    (found : bus.revoke? subscription = some (registration, later)) :
    bus.Loses (· = subscription.id) later := by
  obtain ⟨-, rfl⟩ := revoke?_eq_some found
  refine ⟨rfl, rfl, rfl, rfl, fun eventType => ?_, fun id => ?_⟩
  · show ((bus.setSet _ _).get? eventType).getD [] = _
    rw [getD_setSet]
    split
    · rename_i same
      rw [same]
      simp
    · rename_i different
      refine (List.filter_eq_self.mpr fun other member => ?_).symm
      have elsewhere : other.id ≠ subscription.id := fun same => different (apart member same)
      simpa using elsewhere
  · show ((bus.standings.modify _ _).get? id).getD _ = _
    rw [standing_modify _ _ _ _ rfl]
    simp

/-- Withdrawing takes the registrations away, whatever becomes of the cache. -/
theorem loses_withdraw (bus : Bus κ) (withdrawn : List (Registration κ)) :
    bus.Loses (fun id => withdrawn.any (·.id = id)) (bus.withdraw withdrawn) := by
  refine ⟨rfl, rfl, rfl, rfl, fun eventType => ?_, fun id => ?_⟩
  · show ((bus.sets.map _).get? eventType).getD [] = _
    rw [Table.get?_map]
    unfold setOf
    cases bus.sets.get? eventType <;> rfl
  · show ((bus.standings.map _).get? id).getD _ = _
    rw [Table.get?_map]
    unfold standing
    cases bus.standings.get? id with
    | none => simp [Standing.expire]
    | some stored => rfl

theorem get?_tidy (bus : Bus κ) (eventType : EventType) :
    bus.tidy.sets.get? eventType =
      (bus.sets.get? eventType).filter fun registrations => !registrations.isEmpty :=
  Table.get?_filter _ _ _

theorem setOf_tidy (bus : Bus κ) (eventType : EventType) :
    bus.tidy.setOf eventType = bus.setOf eventType := by
  unfold setOf
  rw [get?_tidy]
  rcases bus.sets.get? eventType with _ | _ | _ <;> rfl

theorem Loses.tidy {bus later : Bus κ} {gone : Nat → Bool} (loses : bus.Loses gone later) :
    bus.Loses gone later.tidy where
  hierarchy := loses.hierarchy
  nextId := loses.nextId
  handles := loses.handles
  running := loses.running
  setOf eventType := (setOf_tidy later eventType).trans (loses.setOf eventType)
  standing := loses.standing

theorem loses_sweep (bus : Bus κ) (selector : Selector κ) (order : SetOrder) :
    bus.Loses (fun id => (bus.sweep selector order).removed.any (·.id = id))
      (bus.sweep selector order).bus := by
  unfold sweep
  dsimp only
  split
  · exact (bus.loses_withdraw _).tidy
  · exact bus.loses_withdraw _

theorem flatten_values (bus : Bus κ) :
    bus.sets.values.flatten = bus.sets.keys.flatMap bus.setOf := by
  unfold Table.values Table.keys
  rw [List.flatMap_map, List.flatMap_def]
  refine congrArg List.flatten (List.map_congr_left fun entry member => ?_)
  unfold setOf
  rw [Table.get?_of_mem member]
  rfl

theorem mem_flatten_values {bus : Bus κ} {registration : Registration κ} :
    registration ∈ bus.sets.values.flatten ↔
      ∃ eventType, registration ∈ bus.setOf eventType := by
  rw [flatten_values, List.mem_flatMap]
  constructor
  · rintro ⟨eventType, -, member⟩
    exact ⟨eventType, member⟩
  · rintro ⟨eventType, member⟩
    refine ⟨eventType, Table.get?_isSome_iff.mp ?_, member⟩
    cases stored : bus.sets.get? eventType with
    | some registrations => rfl
    | none =>
      unfold setOf at member
      rw [stored] at member
      exact absurd member List.not_mem_nil

/-- Every order visits the same registrations. -/
theorem visited_perm (bus : Bus κ) (order : SetOrder) :
    (bus.visited order).Perm bus.sets.values.flatten := by
  rw [flatten_values]
  exact (order.perm bus.sets.keys).flatMap_right bus.setOf

theorem mem_visited {bus : Bus κ} {order : SetOrder} {registration : Registration κ} :
    registration ∈ bus.visited order ↔ ∃ eventType, registration ∈ bus.setOf eventType :=
  (bus.visited_perm order).mem_iff.trans mem_flatten_values

theorem mem_registrations {bus : Bus κ} {registration : Registration κ} :
    registration ∈ bus.registrations ↔ ∃ eventType, registration ∈ bus.setOf eventType := by
  unfold registrations
  rw [List.mem_mergeSort, mem_flatten_values]

/-- Whether a predicate matches a registration. -/
def isMatch (bus : Bus κ) (selector : Selector κ) (registration : Registration κ) : Bool :=
  (selector registration (bus.standing registration.id)).toOption.getD false

/-- When nothing panics, all that match are selected. -/
theorem select_of_calm {bus : Bus κ} {selector : Selector κ} {asked : List (Registration κ)}
    (calm : (bus.select selector asked).2 = none) :
    (bus.select selector asked).1 = asked.filter (bus.isMatch selector) ∧
      ∀ registration ∈ asked, ∃ matching,
        selector registration (bus.standing registration.id) = .ok matching := by
  induction asked with
  | nil => exact ⟨rfl, fun _ member => absurd member List.not_mem_nil⟩
  | cons first rest ih =>
    unfold select at calm ⊢
    cases answer : selector first (bus.standing first.id) with
    | error payload =>
      rw [answer] at calm
      cases calm
    | ok matching =>
      rw [answer] at calm
      obtain ⟨others, calm_rest⟩ := ih calm
      have head : bus.isMatch selector first = matching := by
        unfold isMatch
        rw [answer]
        rfl
      refine ⟨?_, fun registration member => ?_⟩
      · rw [List.filter_cons, head, ← others]
      · rcases List.mem_cons.mp member with rfl | later
        · exact ⟨matching, answer⟩
        · exact calm_rest registration later

theorem removed_of_calm {bus : Bus κ} {selector : Selector κ} {order : SetOrder}
    (calm : (bus.sweep selector order).panic = none) :
    (bus.sweep selector order).removed = (bus.visited order).filter (bus.isMatch selector) :=
  (select_of_calm calm).1

theorem select_sublist (bus : Bus κ) (selector : Selector κ) (asked : List (Registration κ)) :
    (bus.select selector asked).1.Sublist asked := by
  induction asked with
  | nil => exact .slnil
  | cons first rest ih =>
    unfold select
    cases selector first (bus.standing first.id) with
    | error payload => exact List.nil_sublist _
    | ok matching =>
      cases matching with
      | true => exact ih.cons_cons first
      | false => exact ih.cons first

theorem stored_of_removed {bus : Bus κ} {selector : Selector κ} {order : SetOrder}
    {registration : Registration κ} (member : registration ∈ (bus.sweep selector order).removed) :
    ∃ eventType, registration ∈ bus.setOf eventType :=
  mem_visited.mp ((bus.select_sublist selector _).subset member)

/-- What is known is forgotten, or kept as it is. -/
theorem cache_sweep (bus : Bus κ) (selector : Selector κ) (order : SetOrder) :
    (bus.sweep selector order).bus.cache = ∅ ∨
      (bus.sweep selector order).bus.cache = bus.cache := by
  unfold sweep
  dsimp only
  split
  · exact .inl rfl
  · exact .inr rfl

theorem withdraw_nil (bus : Bus κ) : bus.withdraw [] = bus := by
  unfold withdraw
  dsimp only
  rw [Table.map_eq_self fun _ _ => by simp, Table.map_eq_self fun _ _ => by simp]

/-- If nothing matches, the bus stays as it is. -/
theorem sweep_bus_of_nil {bus : Bus κ} {selector : Selector κ} {order : SetOrder}
    (nothing : (bus.sweep selector order).removed = []) :
    (bus.sweep selector order).bus = bus := by
  have unmatched : (bus.select selector (bus.visited order)).1 = [] := nothing
  unfold sweep
  dsimp only
  rw [unmatched, withdraw_nil, List.isEmpty_nil, Bool.not_true, Bool.and_false, if_neg (by simp)]

/-- If something matches and nothing panics, the bus is tidied. -/
theorem sweep_bus_of_ne_nil {bus : Bus κ} {selector : Selector κ} {order : SetOrder}
    (calm : (bus.sweep selector order).panic = none)
    (matched : (bus.sweep selector order).removed ≠ []) :
    ∃ withdrawn : Bus κ, (bus.sweep selector order).bus = withdrawn.tidy := by
  have settled : (bus.select selector (bus.visited order)).2 = none := calm
  have present : (bus.select selector (bus.visited order)).1 ≠ [] := matched
  refine ⟨bus.withdraw (bus.select selector (bus.visited order)).1, ?_⟩
  unfold sweep
  dsimp only
  rw [settled, if_pos]
  simpa using present

/-! ### Counting and receivers -/

theorem standing_countInvocation (bus : Bus κ) (target id : Nat) :
    (bus.countInvocation target).standing id =
      if id = target then (bus.standing id).invoke else bus.standing id :=
  standing_modify _ _ _ _ rfl

theorem receivers_of_undeclared {bus : Bus κ} {eventType : EventType}
    (undeclared : ¬ bus.hierarchy.contains eventType = true) :
    (bus.receivers eventType).list = [] := by
  unfold receivers
  rw [if_neg undeclared]

/-- Receivers that were asked for are known from then on. -/
theorem cache_receivers {bus : Bus κ} {eventType : EventType}
    (occupied : (bus.receivers eventType).list ≠ []) :
    (bus.receivers eventType).bus.cache.get? eventType =
      some (bus.receivers eventType).list := by
  by_cases declared : bus.hierarchy.contains eventType = true
  · unfold receivers
    rw [if_pos declared]
    split
    · assumption
    · exact Table.get?_insert_self _ _ _
  · exact absurd (receivers_of_undeclared declared) occupied

/-- What is known then was known before, or was computed from the registrations. -/
theorem known_of_receivers {bus : Bus κ} {eventType other : EventType}
    {list : List (Registration κ)}
    (known : (bus.receivers eventType).bus.cache.get? other = some list) :
    bus.cache.get? other = some list ∨
      ∀ registration ∈ list, ∃ ancestor, registration ∈ bus.setOf ancestor := by
  unfold receivers at known
  split at known
  · split at known
    · exact .inl known
    · replace known := (Table.get?_insert bus.cache _ _ _).symm.trans known
      split at known
      · refine .inr fun registration member => ?_
        rw [← Option.some.inj known, collect, List.mem_mergeSort, List.mem_flatMap] at member
        obtain ⟨ancestor, -, stored⟩ := member
        exact ⟨ancestor, stored⟩
      · exact .inl known
  · exact .inl known

theorem receivers_bus (bus : Bus κ) (eventType : EventType) :
    ∃ cache, (bus.receivers eventType).bus = { bus with cache } := by
  unfold receivers
  split
  · split
    · exact ⟨_, rfl⟩
    · exact ⟨_, rfl⟩
  · exact ⟨_, rfl⟩

end ExtensionHost.Bus
