/-
**A bus at work: its state, the memory that its code shares, and a journal of all that happens.**

* `Activity`: the entries of the journal. Some are reported to a log (`Activity.lines`), all of them
  stay on record.
* `Session`: bus, memory and journal.
* `Run`: a computation on a session that may fail to end; `Run.on` is what it makes of one.
* `Run.subscribe`, `Run.revoke`, `Run.unsubscribeIf`, `Run.receivers` and their like: the operations
  of the bus, each with its entry in the journal.
-/

import ExtensionHost.Bus.Script
import ExtensionHost.Log.Notice

namespace ExtensionHost

/-- Which of the predicates of a subscriber is meant. -/
inductive Check where
  /-- The filter at this place. -/
  | filter (index : Nat)
  /-- The predicate that ends the registration. -/
  | expiry
deriving DecidableEq, Repr

/-- Something that happened on a bus. -/
inductive Activity (ε κ : Type) where
  /-- A registration was made. -/
  | subscribed (registration : Registration κ)
  /-- A registration was revoked by its handle. -/
  | revoked (registration : Registration κ)
  /-- A registration was taken away because it matched a predicate. -/
  | removed (registration : Registration κ)
  /-- All registrations that match a predicate were taken away, this many and at least one. -/
  | swept (count : Nat)
  /-- A predicate on registrations panicked, so that some were not asked about. -/
  | interrupted (payload : Payload)
  /-- The receivers of an event type were computed. -/
  | collected (eventType : EventType) (lineageLength : Nat) (receivers : List (Registration κ))
  /-- A dispatch to at least one receiver began. -/
  | began (eventType : EventType) (receivers : List (Registration κ))
  /-- A predicate was asked about an event, and answered. -/
  | tested (registration : Registration κ) (check : Check) (event : ε)
      (answer : Except Payload Bool)
  /-- A handler was started. -/
  | handling (registration : Registration κ) (event : ε)
  /-- A receiver's turn ended in a dispatch of the given type. -/
  | settled (eventType : EventType) (turn : Turn κ)

namespace Activity

variable {ε κ : Type}

/-- The notice of an activity, if it is one that is reported. -/
def notice? : Activity ε κ → Option Notice
  | subscribed registration =>
    some (.subscriberRegistered registration.subscriber.name registration.id registration.eventType
      registration.priority)
  | revoked registration =>
    some (.subscriptionRevoked registration.subscriber.name registration.id registration.eventType)
  | removed _ => none
  | swept count => some (.subscribersRemoved count)
  | interrupted _ => none
  | collected eventType lineageLength receivers =>
    some (.dispatchListRebuilt eventType lineageLength receivers.length)
  | began eventType receivers => some (.dispatchStarted eventType receivers.length)
  | tested _ _ _ _ => none
  | handling _ _ => none
  | settled eventType turn =>
    turn.verdict.failure?.map fun failure =>
      .handlerFailed (Outcome.errorOf eventType turn.registration failure)

/-- The lines that an activity adds to a log: the span that it opens, and its notice. -/
def lines (activity : Activity ε κ) : List LogLine :=
  match activity.notice? with
  | none => []
  | some notice => (notice.span? "dispatch").toList ++ [notice.line]

/-- What happens when registrations are taken away. -/
def ofSweep (sweep : Bus.Sweep κ) : List (Activity ε κ) :=
  sweep.removed.map removed ++
    match sweep.panic with
    | some payload => [interrupted payload]
    | none => if sweep.removed.isEmpty then [] else [swept sweep.removed.length]

end Activity

/-- An entry of the journal. -/
structure Entry (ε κ : Type) where
  /-- How many dispatches were running. -/
  depth : Nat
  /-- What happened. -/
  activity : Activity ε κ

/-- A bus at work. -/
structure Session (σ ε κ : Type) where
  /-- The bus. -/
  bus : Bus κ
  /-- The memory that all code shares. -/
  memory : σ
  /-- What has happened, in order. -/
  journal : List (Entry ε κ) := []

namespace Session

variable {σ ε κ : Type}

/-- A session with a new bus. -/
def start (hierarchy : Hierarchy) (memory : σ) : Session σ ε κ where
  bus := { hierarchy }
  memory

/-- The session with more entries in its journal. -/
def record (session : Session σ ε κ) (activities : List (Activity ε κ)) : Session σ ε κ :=
  { session with
    journal := session.journal ++
      activities.map fun activity => { depth := session.bus.running, activity } }

/-- The log of a session. -/
def log (session : Session σ ε κ) : List LogLine :=
  session.journal.flatMap fun entry => entry.activity.lines

end Session

/-- A computation on a session. If it does not end, it has no result, but the session is as the
computation has left it. -/
abbrev Run (σ ε κ : Type) := OptionT (StateM (Session σ ε κ))

namespace Run

variable {σ ε κ α : Type}

/-- The result of a computation, if it ends, and the session afterwards. -/
def on (run : Run σ ε κ α) (session : Session σ ε κ) : Option α × Session σ ε κ :=
  StateT.run (OptionT.run run) session

/-- The computation that does not end. -/
def diverge : Run σ ε κ α :=
  OptionT.fail

/-- The state of the bus. -/
def bus : Run σ ε κ (Bus κ) :=
  return (← get).bus

/-- Changes the state of the bus. -/
def setBus (bus : Bus κ) : Run σ ε κ Unit :=
  modify fun session => { session with bus }

/-- Adds entries to the journal. -/
def record (activities : List (Activity ε κ)) : Run σ ε κ Unit :=
  modify fun session => session.record activities

/-- Adds an entry to the journal. -/
def note (activity : Activity ε κ) : Run σ ε κ Unit :=
  record [activity]

/-- Does something that needs a handle to the bus. -/
def withHandle (action : Run σ ε κ α) : Run σ ε κ (Option α) := do
  if 0 < (← bus).handles then return some (← action) else return none

/-- Puts a new registration on record. -/
def enrol (result : Except ConfigurationError (Registration κ × Bus κ)) :
    Run σ ε κ (Except ConfigurationError Subscription) := do
  match result with
  | .error error => return .error error
  | .ok (registration, bus) =>
    setBus bus
    note (.subscribed registration)
    return .ok registration.subscription

/-- Registers a subscriber for its own event type. -/
def subscribe (subscriber : Subscriber κ) : Run σ ε κ (Except ConfigurationError Subscription) := do
  enrol ((← bus).subscribe subscriber)

/-- Registers a subscriber for an event type. -/
def subscribeTo (eventType : EventType) (subscriber : Subscriber κ) :
    Run σ ε κ (Except ConfigurationError Subscription) := do
  enrol ((← bus).subscribeTo eventType subscriber)

/-- Ends one registration, and tells whether it was there. -/
def revoke (subscription : Subscription) : Run σ ε κ Bool := do
  match (← bus).revoke? subscription with
  | none => return false
  | some (registration, bus) =>
    setBus bus
    note (.revoked registration)
    return true

/-- Ends all registrations that match, visited in an order of their sets, and tells how many; or
gives the predicate's panic. -/
def unsubscribeIf (selector : Bus.Selector κ) (order : Bus.SetOrder) :
    Run σ ε κ (Except Payload Nat) := do
  let sweep := (← bus).sweep selector order
  setBus sweep.bus
  record (Activity.ofSweep sweep)
  return sweep.answer

/-- The receivers of an event type. -/
def receivers (eventType : EventType) : Run σ ε κ (List (Registration κ)) := do
  let receivers := (← bus).receivers eventType
  setBus receivers.bus
  if receivers.computed then
    note (.collected eventType (receivers.bus.hierarchy.lineage eventType).length receivers.list)
  return receivers.list

/-- Takes one more handle to the bus, if someone holds one. -/
def retain : Run σ ε κ Bool := do
  let bus ← bus
  if 0 < bus.handles then
    setBus { bus with handles := bus.handles + 1 }
    return true
  else return false

/-- Gives up one handle to the bus, if someone holds one. -/
def release : Run σ ε κ Bool := do
  let bus ← bus
  if 0 < bus.handles then
    setBus { bus with handles := bus.handles - 1 }
    return true
  else return false

end Run

end ExtensionHost
