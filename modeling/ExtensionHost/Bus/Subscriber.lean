/-
**Subscribers: a handler, and the rules under which it receives events.**

A subscriber is data. Its handler and its predicates are given by name, and a program (see
`ExtensionHost.Bus.Script`) says what the names do. The same subscriber can be registered any number
of times.

* `Subscriber`: name, event type, priority, limit, predicates and handler.
* `Subscriber.Draft`: a subscriber in the making; `Subscriber.Draft.build` finishes it.
-/

import ExtensionHost.ConfigurationError
import ExtensionHost.Priority

namespace ExtensionHost

/-- The number of invocations after which a registration is revoked; it is positive. -/
abbrev Limit := { count : Nat // 0 < count }

/-- The limit of that many invocations; none for zero. -/
def Limit.ofNat? (count : Nat) : Option Limit :=
  if positive : 0 < count then some ⟨count, positive⟩ else none

/-- A handler with its rules, where `κ` holds the names of handlers and predicates. -/
structure Subscriber (κ : Type) where
  /-- The name that logs and errors show. -/
  name : String
  /-- The event type to register for, if it is fixed. -/
  eventType : Option EventType
  /-- The place among the subscribers to one event. -/
  priority : Priority
  /-- Whether cancelled events are received. -/
  acceptsCancelled : Bool
  /-- What is done with an event. -/
  handler : κ
  /-- The predicates that an event has to pass, in order. -/
  filters : List κ
  /-- The predicate that ends the registration in place of a delivery. -/
  expireWhen : Option κ
  /-- How many invocations there are at most. -/
  limit : Option Limit

/-- A subscriber whose parts are still being chosen. -/
structure Subscriber.Draft (κ : Type) where
  /-- The name, if one was given. -/
  name : Option String := none
  /-- The event type, if one was given. -/
  eventType : Option EventType := none
  /-- The place among the subscribers to one event. -/
  priority : Priority := .normal
  /-- Whether cancelled events are received. -/
  acceptsCancelled : Bool := false
  /-- The handler, if one was given. -/
  handler : Option κ := none
  /-- The predicates that an event has to pass, in order. -/
  filters : List κ := []
  /-- The predicate that ends the registration in place of a delivery, if one was given. -/
  expireWhen : Option κ := none
  /-- How many invocations there are at most. -/
  limit : Option Limit := none

namespace Subscriber

variable {κ : Type}

/-- The name of those who gave none. -/
def anonymous : String :=
  "anonymous"

/-- The finished subscriber, which needs a handler. -/
def Draft.build (draft : Draft κ) : Except ConfigurationError (Subscriber κ) :=
  let name := draft.name.getD anonymous
  match draft.handler with
  | none => .error (.missingHandler name)
  | some handler => .ok { draft with name, handler }

/-- The subscriber with this handler and otherwise no rules. -/
def ofHandler (handler : κ) : Subscriber κ where
  name := anonymous
  eventType := none
  priority := .normal
  acceptsCancelled := false
  handler
  filters := []
  expireWhen := none
  limit := none

/-- An optional part of a description. -/
def describeOption {α : Type} (describe : α → String) : Option α → String
  | none => "None"
  | some value => "Some(" ++ describe value ++ ")"

/-- The parts of a description between braces, each with its name. -/
def describeFields (title : String) (fields : List (String × String)) : String :=
  title ++ " \x7b " ++
    ", ".intercalate (fields.map fun field => field.1 ++ ": " ++ field.2) ++ " \x7d"

/-- The subscriber with its rules, in one line. -/
def describe (subscriber : Subscriber κ) : String :=
  describeFields "Subscriber" [
    ("name", Text.quoted subscriber.name),
    ("event_type", describeOption Text.Labelled.label subscriber.eventType),
    ("priority", subscriber.priority.title),
    ("accepts_cancelled", toString subscriber.acceptsCancelled),
    ("filters", toString subscriber.filters.length),
    ("expire_when", toString subscriber.expireWhen.isSome),
    ("expire_after", describeOption (fun limit => toString limit.val) subscriber.limit)]

end Subscriber

end ExtensionHost
