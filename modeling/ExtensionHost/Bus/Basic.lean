/-
**The event bus: who is registered for what, and who receives which event.**

The registrations are kept in one set per event type. The receivers of an event type, which are
those of its whole lineage in running order, are computed when they are first needed and kept until
the registrations change.

* `Bus.subscribe`, `Bus.subscribeTo`: add a registration.
* `Bus.revoke?`, `Bus.sweep`: take away one, or all that match a predicate.
* `Bus.SetOrder`: the order in which a sweep visits the sets, which is not determined by the bus.
* `Bus.receivers`: the list for one event type, with the bus that remembers it.
* `Bus.isActive`, `Bus.subscriberCount`: questions that change nothing.
* `Bus.isAlive`: a bus lives while someone holds a handle to it or one of its dispatches runs.
-/

import ExtensionHost.Bus.Registration
import ExtensionHost.Event.Failure
import ExtensionHost.Event.Hierarchy

namespace ExtensionHost

/-- The state of an event bus. -/
structure Bus (κ : Type) where
  /-- The declared event types. -/
  hierarchy : Hierarchy
  /-- The registrations by event type, in the order of their numbers. -/
  sets : Table EventType (List (Registration κ)) := ∅
  /-- The receivers of the event types for which they are known. -/
  cache : Table EventType (List (Registration κ)) := ∅
  /-- The standing of every registration ever made, by number. -/
  standings : Table Nat Standing := ∅
  /-- The number of the next registration. It grows without end, where a counter of 64 bits would
  start again after that many registrations. -/
  nextId : Nat := 1
  /-- How many handles to the bus are held. -/
  handles : Nat := 1
  /-- How many dispatches are running, one inside the other. -/
  running : Nat := 0

namespace Bus

variable {κ : Type}

/-- Whether the bus is in use; afterwards every subscription is void. -/
def isAlive (bus : Bus κ) : Bool :=
  0 < bus.handles || 0 < bus.running

/-- The registrations for one event type. -/
def setOf (bus : Bus κ) (eventType : EventType) : List (Registration κ) :=
  (bus.sets.get? eventType).getD []

/-- The standing of a registration; a number never given out has ended. -/
def standing (bus : Bus κ) (id : Nat) : Standing :=
  (bus.standings.get? id).getD { live := false, remaining := none }

/-- All registrations on the bus, by number. -/
def registrations (bus : Bus κ) : List (Registration κ) :=
  bus.sets.values.flatten.mergeSort fun first second => first.id ≤ second.id

/-! ### Registering -/

/-- Registers a subscriber for an event type, which has to be declared. -/
def subscribeTo (bus : Bus κ) (eventType : EventType) (subscriber : Subscriber κ) :
    Except ConfigurationError (Registration κ × Bus κ) :=
  if bus.hierarchy.contains eventType then
    let registration : Registration κ := { id := bus.nextId, eventType, subscriber }
    .ok (registration, { bus with
      sets := bus.sets.insert eventType (bus.setOf eventType ++ [registration])
      cache := ∅
      standings := bus.standings.insert bus.nextId (.initial subscriber)
      nextId := bus.nextId + 1 })
  else .error (.undeclaredEventType eventType)

/-- Registers a subscriber for the event type that it names itself. -/
def subscribe (bus : Bus κ) (subscriber : Subscriber κ) :
    Except ConfigurationError (Registration κ × Bus κ) :=
  match subscriber.eventType with
  | some eventType => bus.subscribeTo eventType subscriber
  | none => .error (.missingEventType subscriber.name)

/-! ### Taking away -/

/-- The registration behind a handle, if it is still on a bus in use. -/
def find? (bus : Bus κ) (subscription : Subscription) : Option (Registration κ) :=
  if bus.isAlive then (bus.setOf subscription.eventType).find? (·.id = subscription.id) else none

/-- Whether the registration behind a handle is still on a bus in use. -/
def isActive (bus : Bus κ) (subscription : Subscription) : Bool :=
  (bus.find? subscription).isSome

/-- Stores the registrations for one event type; an empty set is not kept. -/
def setSet (bus : Bus κ) (eventType : EventType) (registrations : List (Registration κ)) :
    Table EventType (List (Registration κ)) :=
  if registrations.isEmpty then bus.sets.erase eventType
  else bus.sets.insert eventType registrations

/-- Takes the registration behind a handle off the bus, if it is still there. -/
def revoke? (bus : Bus κ) (subscription : Subscription) : Option (Registration κ × Bus κ) :=
  (bus.find? subscription).map fun registration =>
    (registration, { bus with
      sets := bus.setSet subscription.eventType
        ((bus.setOf subscription.eventType).filter (·.id ≠ subscription.id))
      cache := ∅
      standings := bus.standings.modify subscription.id .expire })

/-- A predicate on registrations, which may panic. Its answer depends on the registration and its
standing only: a predicate that is asked the same question twice gives the same answer, so that
those which change a state of their own while they are asked are left out. -/
abbrev Selector (κ : Type) := Registration κ → Standing → Except Payload Bool

/-- An order in which the sets are visited when registrations are taken away. No order is promised,
so that what is said of taking away is said of every order. -/
structure SetOrder where
  /-- The event types in this order. -/
  arrange : List EventType → List EventType
  /-- Each of them has its place. -/
  perm : ∀ eventTypes, (arrange eventTypes).Perm eventTypes

/-- The order in which the sets came. -/
def SetOrder.stored : SetOrder where
  arrange := id
  perm := List.Perm.refl

/-- All registrations, set by set, and within a set by number. -/
def visited (bus : Bus κ) (order : SetOrder) : List (Registration κ) :=
  (order.arrange bus.sets.keys).flatMap bus.setOf

/-- The registrations that match, in order, up to the first panic. -/
def select (bus : Bus κ) (selector : Selector κ) :
    List (Registration κ) → List (Registration κ) × Option Payload
  | [] => ([], none)
  | registration :: rest =>
    match selector registration (bus.standing registration.id) with
    | .error payload => ([], some payload)
    | .ok matching =>
      let (selected, panic) := bus.select selector rest
      (if matching then registration :: selected else selected, panic)

/-- The bus without the given registrations. Their sets stay, even if they are empty now, and so do
the known receivers. -/
def withdraw (bus : Bus κ) (withdrawn : List (Registration κ)) : Bus κ :=
  let gone (id : Nat) : Bool := withdrawn.any (·.id = id)
  { bus with
    sets := bus.sets.map fun _ registrations => registrations.filter (!gone ·.id)
    standings := bus.standings.map fun id standing =>
      if gone id then standing.expire else standing }

/-- The bus without empty sets and with no receivers known. -/
def tidy (bus : Bus κ) : Bus κ :=
  { bus with
    sets := bus.sets.filter fun _ registrations => !registrations.isEmpty
    cache := ∅ }

/-- What came of taking away the registrations that match a predicate. -/
structure Sweep (κ : Type) where
  /-- The registrations taken away, in order. -/
  removed : List (Registration κ)
  /-- The panic that ended the work early, if there was one. -/
  panic : Option Payload
  /-- The bus afterwards. -/
  bus : Bus κ

/-- How many registrations were taken away, unless the predicate panicked. -/
def Sweep.answer (sweep : Sweep κ) : Except Payload Nat :=
  match sweep.panic with
  | some payload => .error payload
  | none => .ok sweep.removed.length

/-- Takes away the registrations that match a predicate. If the predicate panics, those before stay
away, and the bus is not tidied. -/
def sweep (bus : Bus κ) (selector : Selector κ) (order : SetOrder) : Sweep κ :=
  let (removed, panic) := bus.select selector (bus.visited order)
  let withdrawn := bus.withdraw removed
  { removed, panic
    bus := if panic.isNone && !removed.isEmpty then withdrawn.tidy else withdrawn }

/-! ### Counting -/

/-- Takes note of one more invocation of a registration. -/
def countInvocation (bus : Bus κ) (id : Nat) : Bus κ :=
  { bus with standings := bus.standings.modify id .invoke }

/-- How many registrations receive events of a type. -/
def subscriberCount (bus : Bus κ) (eventType : EventType) : Nat :=
  ((bus.hierarchy.lineage eventType).map fun ancestor => (bus.setOf ancestor).length).foldr
    (· + ·) 0

/-- Whether any registration receives events of a type. -/
def isSubscribed (bus : Bus κ) (eventType : EventType) : Bool :=
  0 < bus.subscriberCount eventType

/-! ### Receivers -/

/-- The registrations for a type and its ancestors, in running order. -/
def collect (bus : Bus κ) (eventType : EventType) : List (Registration κ) :=
  ((bus.hierarchy.lineage eventType).flatMap bus.setOf).mergeSort Registration.runsBefore

/-- The receivers of one event type. -/
structure Receivers (κ : Type) where
  /-- The registrations, in running order. -/
  list : List (Registration κ)
  /-- Whether the list was computed, and not known before. -/
  computed : Bool
  /-- The bus, which knows the list now. -/
  bus : Bus κ

/-- The receivers of an event type. An undeclared type has none, and nothing is remembered of it. -/
def receivers (bus : Bus κ) (eventType : EventType) : Receivers κ :=
  if bus.hierarchy.contains eventType then
    match bus.cache.get? eventType with
    | some list => { list, computed := false, bus }
    | none =>
      let list := bus.collect eventType
      { list, computed := true, bus := { bus with cache := bus.cache.insert eventType list } }
  else { list := [], computed := false, bus }

/-- The bus in one line. -/
def describe (bus : Bus κ) : String :=
  "EventBus \x7b shared: BusShared \x7b event_types: " ++ toString bus.hierarchy.size ++
    ", next_id: " ++ toString bus.nextId ++ ", .. \x7d \x7d"

end Bus

end ExtensionHost
