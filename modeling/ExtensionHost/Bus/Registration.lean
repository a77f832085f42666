/-
**Registrations: subscribers that were put on a bus, each time under a new number.**

* `Subscription`: the handle by which one registration is revoked.
* `Registration`: number, event type and subscriber; it never changes.
* `Standing`: what does change about a registration, namely whether it is live and how many
  invocations are left.
-/

import ExtensionHost.Bus.Subscriber

namespace ExtensionHost

/-- The handle of one registration. -/
structure Subscription where
  /-- The type for which the registration was made. -/
  eventType : EventType
  /-- The number of the registration. -/
  id : Nat
deriving DecidableEq, Repr

/-- The handle in one line; the bus behind it is not shown. -/
def Subscription.describe (subscription : Subscription) : String :=
  Subscriber.describeFields "Subscription" [
    ("bus", "(Weak)"),
    ("event_type", Text.Labelled.label subscription.eventType),
    ("id", toString subscription.id)]

/-- A subscriber on a bus. -/
structure Registration (κ : Type) where
  /-- The number, by which registrations are told apart. -/
  id : Nat
  /-- The type for which the registration was made. -/
  eventType : EventType
  /-- The subscriber that was registered. -/
  subscriber : Subscriber κ

/-- What changes about a registration in the course of time. -/
structure Standing where
  /-- Whether it still receives events. -/
  live : Bool
  /-- The number of invocations left, if they are limited. -/
  remaining : Option Nat
deriving DecidableEq, Repr

namespace Standing

/-- The standing of a new registration. -/
def initial {κ : Type} (subscriber : Subscriber κ) : Standing where
  live := true
  remaining := subscriber.limit.map Subtype.val

/-- The standing after the registration has ended. -/
def expire (standing : Standing) : Standing :=
  { standing with live := false }

/-- The standing after one more invocation. -/
def invoke (standing : Standing) : Standing :=
  { standing with remaining := standing.remaining.map (· - 1) }

end Standing

namespace Registration

variable {κ : Type}

/-- The place of the registration among the receivers of one event. -/
def priority (registration : Registration κ) : Priority :=
  registration.subscriber.priority

/-- The handle of the registration. -/
def subscription (registration : Registration κ) : Subscription where
  eventType := registration.eventType
  id := registration.id

/-- The name and the number. -/
def identity (registration : Registration κ) : String :=
  registration.subscriber.name ++ "#" ++ toString registration.id

/-- The registration with its standing, in one line. -/
def describe (registration : Registration κ) (standing : Standing) : String :=
  Subscriber.describeFields "Registration" [
    ("id", toString registration.id),
    ("event_type", Text.Labelled.label registration.eventType),
    ("subscriber", registration.subscriber.describe),
    ("remaining", Subscriber.describeOption toString standing.remaining),
    ("live", toString standing.live)]

/-- Registrations in running order: by priority, and by number where that is equal. -/
def runsBefore (first second : Registration κ) : Bool :=
  first.priority < second.priority || (first.priority = second.priority && first.id ≤ second.id)

end Registration

end ExtensionHost
