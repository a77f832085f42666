/-
**What holds of every bus, whatever runs on it.**

* `Bus.Sound`: every registration stands in the set of its own declared type, under its own number,
  and those that stand somewhere are the live ones.
* `Bus.Coherent`: moreover no set is empty, and every list of receivers that is known is the right
  one (`Bus.Lists`).
* `Session.Step.sound`, `Session.Step.coherent`: what each step preserves.
* `sound_of_reached`, `coherent_of_reached`: every session has a sound bus, and a coherent one if no
  predicate on registrations has panicked, also in the middle of a dispatch.

Mathlib is imported whole for `cbv`, which evaluates closed sessions here and in the modules that
follow: the equations of `StateT` that it unfolds by are in no smaller part.
-/

import ExtensionHost.Demo
import ExtensionHost.Proofs.Bus.Operations
import ExtensionHost.Proofs.Bus.RunningOrder
import ExtensionHost.Proofs.Bus.Moves
import ExtensionHost.Proofs.Event.Lineage
import Mathlib

namespace ExtensionHost

open Relation (ReflTransGen)

variable {σ ε κ : Type}

/-! ### The invariants -/

namespace Bus

/-- The registrations are where they belong, each under its own number. -/
structure Sound (bus : Bus κ) : Prop where
  /-- A registration stands in the set of its own type. -/
  typed : ∀ {eventType registration}, registration ∈ bus.setOf eventType →
    registration.eventType = eventType
  /-- Types with registrations are declared. -/
  declared : ∀ {eventType registration}, registration ∈ bus.setOf eventType →
    bus.hierarchy.contains eventType = true
  /-- The numbers in use were given out. -/
  numbered : ∀ {eventType registration}, registration ∈ bus.setOf eventType →
    registration.id < bus.nextId
  /-- Each set is in the order of the numbers, which are distinct. -/
  increasing : ∀ eventType, (bus.setOf eventType).Pairwise fun first second => first.id < second.id
  /-- No number is in use under two types. -/
  apart : ∀ {eventType other registration rival}, registration ∈ bus.setOf eventType →
    rival ∈ bus.setOf other → rival.id = registration.id → other = eventType
  /-- The live registrations are those that stand in a set. -/
  live_iff : ∀ id, (bus.standing id).live = true ↔ bus.Holds id

/-- The list holds the receivers of an event type: the registrations of its whole lineage, strictly
increasing in running order and so each once. -/
structure Lists (bus : Bus κ) (eventType : EventType) (list : List (Registration κ)) : Prop where
  declared : bus.hierarchy.contains eventType = true
  mem_iff : ∀ registration, registration ∈ list ↔
    ∃ ancestor ∈ bus.hierarchy.lineage eventType, registration ∈ bus.setOf ancestor
  increasing : list.Pairwise Registration.RunsStrictlyBefore

/-- The bus is sound, stores no empty set, and knows no list of receivers that is not up to
date. Numbers are unbounded here, so that they never run out. -/
structure Coherent (bus : Bus κ) : Prop extends Sound bus where
  occupied : ∀ {eventType registrations}, bus.sets.get? eventType = some registrations →
    registrations ≠ []
  known : ∀ {eventType list}, bus.cache.get? eventType = some list → bus.Lists eventType list

/-! ### Receivers -/

theorem Sound.ids_ne {bus : Bus κ} (sound : bus.Sound) {types : List EventType}
    (once : types.Nodup) :
    (types.flatMap bus.setOf).Pairwise fun first second => first.id ≠ second.id := by
  rw [List.pairwise_flatMap]
  constructor
  · exact fun eventType _ => (sound.increasing eventType).imp Nat.ne_of_lt
  · refine once.imp ?_
    intro eventType other different first present second member same
    exact different (sound.apart member present same)

theorem Sound.nodup_stored {bus : Bus κ} (sound : bus.Sound) :
    (bus.sets.values.flatten.map Registration.id).Nodup := by
  rw [flatten_values, List.nodup_iff_pairwise_ne, List.pairwise_map]
  exact sound.ids_ne bus.sets.nodup_keys

theorem Sound.nodup_visited {bus : Bus κ} (sound : bus.Sound) (order : SetOrder) :
    ((bus.visited order).map Registration.id).Nodup :=
  ((bus.visited_perm order).map _).nodup_iff.mpr sound.nodup_stored

theorem Sound.increasing_registrations {bus : Bus κ} (sound : bus.Sound) :
    bus.registrations.Pairwise fun first second => first.id < second.id := by
  have ordered : bus.registrations.Pairwise fun first second =>
      decide (first.id ≤ second.id) = true :=
    List.pairwise_mergeSort Registration.id_trans Registration.id_total _
  have distinct : (bus.registrations.map Registration.id).Nodup :=
    ((List.mergeSort_perm _ _).map _).nodup_iff.mpr sound.nodup_stored
  rw [List.nodup_iff_pairwise_ne, List.pairwise_map] at distinct
  exact (ordered.and distinct).imp fun both =>
    Nat.lt_of_le_of_ne (of_decide_eq_true both.1) both.2

theorem subscriberCount_eq (bus : Bus κ) (eventType : EventType) :
    bus.subscriberCount eventType =
      ((bus.hierarchy.lineage eventType).flatMap bus.setOf).length :=
  List.length_flatMap.symm

/-- To count is to list without repetition. -/
theorem Sound.length_eq_subscriberCount {bus : Bus κ} (sound : bus.Sound) {eventType : EventType}
    {list : List (Registration κ)} (once : list.Nodup)
    (mem_iff : ∀ registration, registration ∈ list ↔
      ∃ ancestor ∈ bus.hierarchy.lineage eventType, registration ∈ bus.setOf ancestor) :
    list.length = bus.subscriberCount eventType := by
  rw [subscriberCount_eq]
  have distinct : ((bus.hierarchy.lineage eventType).flatMap bus.setOf).Nodup :=
    (sound.ids_ne (bus.hierarchy.nodup_lineage eventType)).imp
      fun different same => different (congrArg _ same)
  refine ((List.perm_ext_iff_of_nodup once distinct).mpr fun registration => ?_).length_eq
  rw [mem_iff, List.mem_flatMap]

theorem Sound.lists_collect {bus : Bus κ} (sound : bus.Sound) {eventType : EventType}
    (declared : bus.hierarchy.contains eventType = true) :
    bus.Lists eventType (bus.collect eventType) where
  declared := declared
  mem_iff registration := by
    unfold collect
    rw [List.mem_mergeSort, List.mem_flatMap]
  increasing := by
    have ordered : (bus.collect eventType).Pairwise
        fun first second => first.runsBefore second = true :=
      List.pairwise_mergeSort Registration.runsBefore_trans Registration.runsBefore_total _
    have distinct : (bus.collect eventType).Pairwise fun first second => first.id ≠ second.id :=
      (List.mergeSort_perm _ _).symm.pairwise
        (sound.ids_ne (bus.hierarchy.nodup_lineage eventType)) fun different => different.symm
    exact (ordered.and distinct).imp fun both =>
      Registration.runsStrictlyBefore_of_ne both.1 both.2

theorem Coherent.lists_receivers {bus : Bus κ} (coherent : bus.Coherent) {eventType : EventType}
    (declared : bus.hierarchy.contains eventType = true) :
    bus.Lists eventType (bus.receivers eventType).list := by
  unfold receivers
  rw [if_pos declared]
  split
  · rename_i list stored
    exact coherent.known stored
  · exact coherent.toSound.lists_collect declared

/-! ### What operations preserve -/

/-- Soundness is about sets and live flags only. -/
theorem Sound.congr {bus later : Bus κ} (sound : bus.Sound)
    (hierarchy : later.hierarchy = bus.hierarchy) (nextId : later.nextId = bus.nextId)
    (setOf : ∀ eventType, later.setOf eventType = bus.setOf eventType)
    (live : ∀ id, (later.standing id).live = (bus.standing id).live) : later.Sound where
  typed member := sound.typed (setOf _ ▸ member)
  declared member := by
    rw [hierarchy]
    exact sound.declared (setOf _ ▸ member)
  numbered member := by
    rw [nextId]
    exact sound.numbered (setOf _ ▸ member)
  increasing eventType := by
    rw [setOf]
    exact sound.increasing eventType
  apart member rival := sound.apart (setOf _ ▸ member) (setOf _ ▸ rival)
  live_iff := by simpa only [Holds, setOf, live] using sound.live_iff

theorem Sound.of_gains {bus later : Bus κ} {registration : Registration κ} (sound : bus.Sound)
    (gains : bus.Gains registration later) : later.Sound where
  typed member := by
    rcases gains.mem_setOf.mp member with old | ⟨rfl, rfl⟩
    · exact sound.typed old
    · rfl
  declared member := by
    rw [gains.hierarchy]
    rcases gains.mem_setOf.mp member with old | ⟨rfl, rfl⟩
    · exact sound.declared old
    · exact gains.declared
  numbered member := by
    rw [gains.nextId]
    rcases gains.mem_setOf.mp member with old | ⟨rfl, rfl⟩
    · exact Nat.lt_succ_of_lt (sound.numbered old)
    · exact Nat.lt_succ_of_le (Nat.le_of_eq gains.id_eq)
  increasing eventType := by
    rw [gains.setOf]
    split
    · refine List.pairwise_append.mpr ⟨sound.increasing _, List.pairwise_singleton _ _, ?_⟩
      intro old member new last
      rw [List.mem_singleton.mp last, gains.id_eq]
      exact sound.numbered member
    · exact sound.increasing eventType
  apart member rival same := by
    -- an old number is below the new one, so that two equal ones are both old or both new
    rcases gains.mem_setOf.mp member with old | ⟨rfl, rfl⟩ <;>
      rcases gains.mem_setOf.mp rival with older | ⟨rfl, rfl⟩
    · exact sound.apart old older same
    · have low := sound.numbered old
      rw [← same, gains.id_eq] at low
      exact absurd low (Nat.lt_irrefl _)
    · have low := sound.numbered older
      rw [same, gains.id_eq] at low
      exact absurd low (Nat.lt_irrefl _)
    · rfl
  live_iff id := by
    rw [gains.standing, gains.holds_iff]
    split
    · rename_i new
      exact ⟨fun _ => .inl new, fun _ => rfl⟩
    · rename_i old
      rw [sound.live_iff, or_iff_right old]

theorem Sound.of_loses {bus later : Bus κ} {gone : Nat → Bool} (sound : bus.Sound)
    (loses : bus.Loses gone later) : later.Sound where
  typed member := sound.typed (loses.mem_setOf.mp member).1
  declared member := by
    rw [loses.hierarchy]
    exact sound.declared (loses.mem_setOf.mp member).1
  numbered member := by
    rw [loses.nextId]
    exact sound.numbered (loses.mem_setOf.mp member).1
  increasing eventType := by
    rw [loses.setOf]
    exact (sound.increasing eventType).filter _
  apart member rival same :=
    sound.apart (loses.mem_setOf.mp member).1 (loses.mem_setOf.mp rival).1 same
  live_iff id := by
    rw [loses.standing, loses.holds_iff]
    cases gone id with
    | true => exact ⟨fun live => absurd live Bool.false_ne_true, fun held => nomatch held.2⟩
    | false =>
      rw [if_neg Bool.false_ne_true, sound.live_iff]
      exact ⟨fun held => ⟨held, rfl⟩, And.left⟩

theorem Sound.loses_revoked {bus later : Bus κ} (sound : bus.Sound)
    {subscription : Subscription} {registration : Registration κ}
    (found : bus.revoke? subscription = some (registration, later)) :
    bus.Loses (· = subscription.id) later := by
  obtain ⟨present, -⟩ := revoke?_eq_some found
  obtain ⟨member, same⟩ := mem_of_find? present
  refine loses_of_revoke (fun other_member other_same => ?_) found
  exact sound.apart member other_member (other_same.trans same.symm)

/-- The lists that are known stay right as long as the sets do not change. -/
theorem Lists.congr {bus later : Bus κ} {eventType : EventType} {list : List (Registration κ)}
    (lists : bus.Lists eventType list) (hierarchy : later.hierarchy = bus.hierarchy)
    (setOf : ∀ eventType, later.setOf eventType = bus.setOf eventType) :
    later.Lists eventType list where
  declared := by
    rw [hierarchy]
    exact lists.declared
  mem_iff := by simpa only [hierarchy, setOf] using lists.mem_iff
  increasing := lists.increasing

theorem coherent_start (hierarchy : Hierarchy) : ({ hierarchy } : Bus κ).Coherent where
  typed member := absurd member List.not_mem_nil
  declared member := absurd member List.not_mem_nil
  numbered member := absurd member List.not_mem_nil
  increasing _ := List.Pairwise.nil
  apart member := absurd member List.not_mem_nil
  live_iff _ := by
    refine ⟨fun live => absurd live Bool.false_ne_true, ?_⟩
    rintro ⟨_, _, member, _⟩
    exact absurd member List.not_mem_nil
  occupied found := nomatch found
  known found := nomatch found

theorem Coherent.of_gains {bus later : Bus κ} {registration : Registration κ}
    (coherent : bus.Coherent) (gains : bus.Gains registration later) : later.Coherent where
  toSound := coherent.toSound.of_gains gains
  occupied found := by
    rw [gains.get?] at found
    split at found
    · rw [← Option.some.inj found]
      exact List.append_ne_nil_of_right_ne_nil _ (List.cons_ne_nil _ _)
    · exact coherent.occupied found
  known found := by
    rw [gains.cache] at found
    cases found

theorem Coherent.of_revoke {bus later : Bus κ} (coherent : bus.Coherent)
    {subscription : Subscription} {registration : Registration κ}
    (found : bus.revoke? subscription = some (registration, later)) : later.Coherent where
  toSound := coherent.toSound.of_loses (coherent.toSound.loses_revoked found)
  occupied stored := by
    obtain ⟨-, rfl⟩ := revoke?_eq_some found
    replace stored := (get?_setSet bus _ _ _).symm.trans stored
    split at stored
    · split at stored
      · cases stored
      · rename_i nonempty
        rw [← Option.some.inj stored]
        exact fun empty => nonempty (List.isEmpty_iff.mpr empty)
    · exact coherent.occupied stored
  known stored := by
    obtain ⟨-, rfl⟩ := revoke?_eq_some found
    cases stored

theorem Coherent.of_sweep {bus : Bus κ} (coherent : bus.Coherent) {selector : Selector κ}
    {order : SetOrder} (calm : (bus.sweep selector order).panic = none) :
    (bus.sweep selector order).bus.Coherent := by
  by_cases nothing : (bus.sweep selector order).removed = []
  · rw [sweep_bus_of_nil nothing]
    exact coherent
  · have sound := coherent.toSound.of_loses (bus.loses_sweep selector order)
    obtain ⟨withdrawn, tidied⟩ := sweep_bus_of_ne_nil calm nothing
    rw [tidied] at sound ⊢
    refine ⟨sound, fun stored => ?_, fun stored => nomatch stored⟩
    rw [get?_tidy, Option.filter_eq_some_iff] at stored
    rintro rfl
    exact absurd stored.2 Bool.false_ne_true

theorem Coherent.of_receivers {bus : Bus κ} (coherent : bus.Coherent) (eventType : EventType) :
    (bus.receivers eventType).bus.Coherent := by
  unfold receivers
  split
  · rename_i declared
    split
    · exact coherent
    · refine ⟨coherent.toSound.congr rfl rfl (fun _ => rfl) fun _ => rfl, coherent.occupied, ?_⟩
      intro other list stored
      replace stored := (Table.get?_insert bus.cache _ _ _).symm.trans stored
      split at stored
      · rename_i same
        rw [same, ← Option.some.inj stored]
        exact (coherent.toSound.lists_collect declared).congr rfl fun _ => rfl
      · exact (coherent.known stored).congr rfl fun _ => rfl
  · exact coherent

theorem Coherent.hold {bus : Bus κ} (coherent : bus.Coherent) (handles running : Nat) :
    ({ bus with handles, running } : Bus κ).Coherent where
  toSound := coherent.toSound.congr rfl rfl (fun _ => rfl) fun _ => rfl
  occupied := coherent.occupied
  known stored := (coherent.known stored).congr rfl fun _ => rfl

theorem Coherent.of_countInvocation {bus : Bus κ} (coherent : bus.Coherent) (id : Nat) :
    (bus.countInvocation id).Coherent where
  toSound := by
    refine coherent.toSound.congr rfl rfl (fun _ => rfl) fun other => ?_
    rw [standing_countInvocation]
    split <;> rfl
  occupied := coherent.occupied
  known stored := (coherent.known stored).congr rfl fun _ => rfl

end Bus

/-! ### What steps preserve -/

namespace Session

/-- Soundness survives even a panic in the middle of taking registrations away. -/
theorem Step.sound {session later : Session σ ε κ} (step : Step session later)
    (sound : session.bus.Sound) : later.bus.Sound := by
  cases step with
  | remember memory => exact sound
  | enrol accepted => exact sound.of_gains (Bus.gains_of_subscribeTo accepted).2
  | revoke found => exact sound.of_loses (sound.loses_revoked found)
  | sweep selector order => exact sound.of_loses (session.bus.loses_sweep selector order)
  | collect eventType =>
    obtain ⟨cache, same⟩ := session.bus.receivers_bus eventType
    show (session.bus.receivers eventType).bus.Sound
    rw [same]
    exact sound.congr rfl rfl (fun _ => rfl) fun _ => rfl
  | hold handles running => exact sound.congr rfl rfl (fun _ => rfl) fun _ => rfl
  | count id =>
    refine sound.congr rfl rfl (fun _ => rfl) fun other => ?_
    show ((session.bus.countInvocation id).standing other).live = _
    rw [Bus.standing_countInvocation]
    split <;> rfl
  | note activity plain => exact sound

theorem panic_eq_none_of_undisturbed {session : Session σ ε κ} {sweep : Bus.Sweep κ}
    (undisturbed : (session.record (Activity.ofSweep sweep)).Undisturbed) :
    sweep.panic = none := by
  cases panicked : sweep.panic with
  | none => rfl
  | some payload =>
    have noted : Activity.interrupted payload ∈ (Activity.ofSweep sweep : List (Activity ε κ)) := by
      unfold Activity.ofSweep
      rw [panicked]
      exact List.mem_append_right _ (List.mem_singleton.mpr rfl)
    have entered := undisturbed _ (List.mem_append_right _ (List.mem_map_of_mem noted))
    exact absurd entered Bool.true_eq_false.mp

theorem Step.coherent {session later : Session σ ε κ} (step : Step session later)
    (undisturbed : later.Undisturbed) (coherent : session.bus.Coherent) :
    later.bus.Coherent := by
  cases step with
  | remember memory => exact coherent
  | enrol accepted => exact coherent.of_gains (Bus.gains_of_subscribeTo accepted).2
  | revoke found => exact coherent.of_revoke found
  | sweep selector order => exact coherent.of_sweep (panic_eq_none_of_undisturbed undisturbed)
  | collect eventType => exact coherent.of_receivers eventType
  | hold handles running => exact coherent.hold handles running
  | count id => exact coherent.of_countInvocation id
  | note activity plain => exact coherent

theorem coherent_of_steps {session later : Session σ ε κ}
    (steps : ReflTransGen Step session later) (undisturbed : later.Undisturbed)
    (coherent : session.bus.Coherent) : later.bus.Coherent := by
  induction steps with
  | refl => exact coherent
  | tail _ step ih => exact step.coherent undisturbed (ih (undisturbed.before (.single step)))

/-- Whatever happens, every registration stays where it belongs. -/
theorem sound_of_reached [Event ε] {hierarchy : Hierarchy} {memory : σ}
    {session : Session σ ε κ} (reached : Reached hierarchy memory session) :
    session.bus.Sound := by
  have steps := reached.steps
  clear reached
  induction steps with
  | refl => exact (Bus.coherent_start hierarchy).toSound
  | tail _ step ih => exact step.sound ih

/-- **As long as no predicate on registrations panics, every session has a coherent bus**, whatever
the code of handlers and predicates does, and wherever it stands. -/
theorem coherent_of_reached [Event ε] {hierarchy : Hierarchy} {memory : σ}
    {session : Session σ ε κ} (reached : Reached hierarchy memory session)
    (undisturbed : session.Undisturbed) : session.bus.Coherent :=
  coherent_of_steps reached.steps undisturbed (Bus.coherent_start hierarchy)

end Session

/-! ### A session in the middle of a dispatch -/

namespace Halfway

/-- Two types, one below the other. -/
def hierarchy : Hierarchy :=
  .ofDeclared ⟨[(⟨"base"⟩, []), (⟨"part"⟩, [⟨"base"⟩])], by decide⟩

/-- One handler revokes itself and dispatches an event of its own; the other one halts. -/
def program : Program Unit Signal Bool where
  test _ _ := .done true
  handle halts subscription _ :=
    if halts then .ask (.plain .halt) nofun
    else .ask (.plain (.revoke subscription)) fun _ =>
      .ask (.plain (.dispatch { eventType := ⟨"part"⟩ })) fun _ => .done (.ok ())

/-- Two registrations and a dispatch, which goes to both. -/
def script : Script (Request Unit Signal Bool) Request.Answer Unit :=
  .ask (.subscribeTo ⟨"base"⟩ (.ofHandler false)) fun _ =>
    .ask (.subscribeTo ⟨"part"⟩ (.ofHandler true)) fun _ =>
      .ask (.dispatch { eventType := ⟨"part"⟩ }) fun _ => .done ()

/-- The session in which the second handler has halted, two dispatches deep. -/
def session : Session Unit Signal Bool :=
  (Session.play program 2 hierarchy () script).2

/-- The first registration is gone by then, and the receivers are known again. -/
theorem coherent_halfway : session.bus.running = 2 ∧
    session.bus.cache.keys = [⟨"part"⟩] ∧ session.bus.Coherent :=
  ⟨by cbv, by cbv, Session.coherent_of_reached ⟨program, 2, script, rfl⟩
    (of_decide_eq_true (by cbv))⟩

end Halfway

end ExtensionHost
