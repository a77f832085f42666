/-
**The bus as it would be told in a sentence: one list of registrations, and nothing else.**

* `Roster`: the registrations that are present, in the order in which they were made. There are no
  sets by event type, no known receivers, and no registrations that have ended.
* `Roster.subscribeTo`, `Roster.revoke`, `Roster.unsubscribeIf`, `Roster.receivers` and their like:
  the operations, each with what goes on record.
* `Roster.Run`: a computation on a roster, with shared memory and a journal.
* `Roster.offer`, `Roster.dispatch`, `Roster.perform`: the rules of a dispatch on a roster.
-/

import ExtensionHost.Bus.Dispatch

namespace ExtensionHost

variable {σ ε κ α : Type}

/-- A registration that is present, with the number of invocations left if they are limited. -/
structure Roster.Seat (κ : Type) where
  /-- The registration. -/
  registration : Registration κ
  /-- How many invocations are left. -/
  remaining : Option Nat

/-- The registrations that are present, and who uses them. -/
structure Roster (κ : Type) where
  /-- The declared event types. -/
  hierarchy : Hierarchy
  /-- The registrations in the order in which they were made. -/
  seats : List (Roster.Seat κ) := []
  /-- The number of the next registration. -/
  nextId : Nat := 1
  /-- How many handles are held. -/
  handles : Nat := 1
  /-- How many dispatches are running, one inside the other. -/
  running : Nat := 0

namespace Roster

/-! ### Questions -/

/-- The registrations without their counts. -/
def registrations (roster : Roster κ) : List (Registration κ) :=
  roster.seats.map Seat.registration

/-- The registration behind a handle, as long as the roster is in use. -/
def find? (roster : Roster κ) (subscription : Subscription) : Option (Registration κ) :=
  if 0 < roster.handles ∨ 0 < roster.running then
    roster.registrations.find? (·.subscription = subscription)
  else none

/-- Whether a registration with this number is present. -/
def isPresent (roster : Roster κ) (id : Nat) : Bool :=
  roster.registrations.any (·.id = id)

/-- The registrations that receive the events of a type, in the order in which they were made. -/
def interested (roster : Roster κ) (eventType : EventType) : List (Registration κ) :=
  roster.registrations.filter fun registration =>
    roster.hierarchy.isAssignable registration.eventType eventType

/-- The receivers of an event: those interested in its type, by priority, and in the order in which
they were made where that is equal. -/
def receivers (roster : Roster κ) (eventType : EventType) : List (Registration κ) :=
  if roster.hierarchy.contains eventType then
    (roster.interested eventType).mergeSort fun first second => first.priority ≤ second.priority
  else []

/-! ### Operations -/

/-- What comes of an operation. -/
structure Effect (ε κ α : Type) where
  /-- The answer. -/
  answer : α
  /-- The roster afterwards. -/
  roster : Roster κ
  /-- What goes on record. -/
  activities : List (Activity ε κ) := []

/-- Registers a subscriber for an event type, which has to be declared. -/
def subscribeTo (eventType : EventType) (subscriber : Subscriber κ) (roster : Roster κ) :
    Effect ε κ (Except ConfigurationError Subscription) :=
  if roster.hierarchy.contains eventType then
    let registration : Registration κ := { id := roster.nextId, eventType, subscriber }
    let seat : Seat κ := { registration, remaining := subscriber.limit.map Subtype.val }
    { answer := .ok registration.subscription
      roster := { roster with seats := roster.seats ++ [seat], nextId := roster.nextId + 1 }
      activities := [.subscribed registration] }
  else { answer := .error (.undeclaredEventType eventType), roster }

/-- Registers a subscriber for the event type that it names itself. -/
def subscribe (subscriber : Subscriber κ) (roster : Roster κ) :
    Effect ε κ (Except ConfigurationError Subscription) :=
  match subscriber.eventType with
  | some eventType => roster.subscribeTo eventType subscriber
  | none => { answer := .error (.missingEventType subscriber.name), roster }

/-- The roster without the seats that are not kept. -/
def keep (roster : Roster κ) (kept : Seat κ → Bool) : Roster κ :=
  { roster with seats := roster.seats.filter kept }

/-- Takes a registration off the roster, if it is there. -/
def revoke (subscription : Subscription) (roster : Roster κ) : Effect ε κ Bool :=
  match roster.find? subscription with
  | none => { answer := false, roster }
  | some registration =>
    { answer := true
      roster := roster.keep (·.registration.id ≠ subscription.id)
      activities := [.revoked registration] }

/-- What a predicate says to the registration of a seat. -/
def Seat.ask (seat : Seat κ) (selector : Bus.Selector κ) : Except Payload Bool :=
  selector seat.registration { live := true, remaining := seat.remaining }

/-- Whether a predicate matches the registration of a seat. -/
def Seat.matched (seat : Seat κ) (selector : Bus.Selector κ) : Bool :=
  (seat.ask selector).toOption.getD false

/-- The panic of a predicate at a seat, if it panics there. -/
def Seat.panic? (seat : Seat κ) (selector : Bus.Selector κ) : Option Payload :=
  match seat.ask selector with
  | .ok _ => none
  | .error payload => some payload

/-- Takes all registrations that match off the roster. A predicate that panics anywhere changes
nothing. -/
def unsubscribeIf (selector : Bus.Selector κ) (roster : Roster κ) :
    Effect ε κ (Except Payload Nat) :=
  match roster.seats.findSome? (·.panic? selector) with
  | some payload => { answer := .error payload, roster, activities := [.interrupted payload] }
  | none =>
    let count := roster.seats.countP (·.matched selector)
    { answer := .ok count
      roster := roster.keep (!·.matched selector)
      activities := if count = 0 then [] else [.swept count] }

/-- The roster after one more invocation of a registration. -/
def counted (roster : Roster κ) (id : Nat) : Roster κ :=
  { roster with
    seats := roster.seats.map fun seat =>
      if seat.registration.id = id then { seat with remaining := seat.remaining.map (· - 1) }
      else seat }

/-- Counts an invocation, and revokes the registration when it was the last one allowed. -/
def countInvocation (registration : Registration κ) (roster : Roster κ) : Effect ε κ Unit :=
  let last := roster.seats.any fun seat =>
    seat.registration.id = registration.id && seat.remaining = some 1
  let counted := roster.counted registration.id
  if last then { counted.revoke registration.subscription with answer := () }
  else { answer := (), roster := counted }

/-- Takes one more handle, if someone holds one. -/
def retain (roster : Roster κ) : Effect ε κ Bool :=
  if 0 < roster.handles then
    { answer := true, roster := { roster with handles := roster.handles + 1 } }
  else { answer := false, roster }

/-- Gives up one handle, if someone holds one. -/
def release (roster : Roster κ) : Effect ε κ Bool :=
  if 0 < roster.handles then
    { answer := true, roster := { roster with handles := roster.handles - 1 } }
  else { answer := false, roster }

/-- Changes the number of running dispatches. -/
def setRunning (change : Nat → Nat) (roster : Roster κ) : Effect ε κ Unit :=
  { answer := (), roster := { roster with running := change roster.running } }

/-! ### Computations -/

/-- A roster at work. -/
structure Session (σ ε κ : Type) where
  /-- The roster. -/
  roster : Roster κ
  /-- The memory that all code shares. -/
  memory : σ
  /-- What has happened, in order. -/
  journal : List (Entry ε κ) := []

/-- A session with an empty roster. -/
def Session.start (hierarchy : Hierarchy) (memory : σ) : Session σ ε κ where
  roster := { hierarchy }
  memory

/-- The session after an operation. -/
def Session.after (session : Session σ ε κ) (effect : Effect ε κ α) : Session σ ε κ :=
  { session with
    roster := effect.roster
    journal := session.journal ++
      effect.activities.map fun activity => { depth := effect.roster.running, activity } }

/-- A computation on a roster, which may fail to end. -/
abbrev Run (σ ε κ : Type) := OptionT (StateM (Session σ ε κ))

/-- The result of a computation, if it ends, and the session afterwards. -/
def Run.on (run : Run σ ε κ α) (session : Session σ ε κ) : Option α × Session σ ε κ :=
  StateT.run (OptionT.run run) session

/-- Carries out an operation. -/
def act (operation : Roster κ → Effect ε κ α) : Run σ ε κ α := do
  let session ← get
  set (session.after (operation session.roster))
  return (operation session.roster).answer

/-- An operation that only answers. -/
def answering (question : Roster κ → α) : Run σ ε κ α :=
  act fun roster => { answer := question roster, roster }

/-- Puts something on record. -/
def note (activity : Activity ε κ) : Run σ ε κ Unit :=
  act fun roster => { answer := (), roster, activities := [activity] }

/-- Does something that needs a handle. -/
def withHandle (action : Run σ ε κ α) : Run σ ε κ (Option α) := do
  if 0 < (← answering Roster.handles) then return some (← action) else return none

/-! ### The rules of a dispatch -/

/-- Answers a request, where `nested` dispatches an event. -/
def perform (nested : ε → Run σ ε κ (ε × Outcome κ)) :
    (request : Request σ ε κ) → Run σ ε κ request.Answer
  | .memory => return (← get).memory
  | .remember memory => modify fun session => { session with memory }
  | .subscribe subscriber => withHandle (act (subscribe subscriber))
  | .subscribeTo eventType subscriber => withHandle (act (subscribeTo eventType subscriber))
  | .revoke subscription => act (revoke subscription)
  | .isActive subscription => answering fun roster => (roster.find? subscription).isSome
  | .unsubscribeIf selector _ => withHandle (act (unsubscribeIf selector))
  | .dispatch event => withHandle (nested event)
  | .isSubscribed eventType =>
    withHandle (answering fun roster => !(roster.interested eventType).isEmpty)
  | .subscriberCount eventType =>
    withHandle (answering fun roster => (roster.interested eventType).length)
  | .retain => act retain
  | .release => act release
  | .halt => OptionT.fail

/-- Answers a request of a handler, whose event is the state. -/
def performForHandler (nested : ε → Run σ ε κ (ε × Outcome κ)) :
    (request : HandlerRequest σ ε κ) → StateT ε (Run σ ε κ) request.Answer
  | .plain request => liftM (perform nested request)
  | .amend change => do
    modify change
    get
  | .redispatch => do
    let answer ← liftM (withHandle (nested (← get)))
    if let some (event, _) := answer then set event
    return answer

section Rules

variable (program : Program σ ε κ) (nested : ε → Run σ ε κ (ε × Outcome κ))

/-- Asks one predicate about the event. -/
def ask (registration : Registration κ) (check : Check) (test : κ) (event : ε) :
    Run σ ε κ (Except Payload Bool) := do
  let answer ← (program.test test event).run (perform nested)
  note (.tested registration check event answer)
  return answer

/-- Asks the filters from one place on, up to the first that does not let the event pass. -/
def askFilters (registration : Registration κ) (event : ε) :
    (index : Nat) → List κ → Run σ ε κ (Except Payload Bool)
  | _, [] => return .ok true
  | index, filter :: rest => do
    match ← ask program nested registration (.filter index) filter event with
    | .ok true => askFilters registration event (index + 1) rest
    | answer => return answer

/-- Whether the event ends the registration; without a predicate it does not. -/
def askExpiry (registration : Registration κ) (event : ε) : Run σ ε κ (Except Payload Bool) :=
  match registration.subscriber.expireWhen with
  | none => return .ok false
  | some test => ask program nested registration .expiry test event

/-- Runs the handler, and counts the invocation if it succeeds. -/
def invoke (registration : Registration κ) (event : ε) : Run σ ε κ (Verdict × ε) := do
  note (.handling registration event)
  let handler := program.handle registration.subscriber.handler registration.subscription event
  match ← (handler.run (performForHandler nested)).run event with
  | (.error payload, event) => return (.failed (.panicked payload), event)
  | (.ok (.error report), event) => return (.failed (.returned report), event)
  | (.ok (.ok ()), event) =>
    act (countInvocation registration)
    return (.invoked, event)

/-- Offers the event to a receiver: is it still there, does it accept a cancelled event, do all
filters let the event pass, and does the event not end the registration? Then it is handled. -/
def offer [Event ε] (registration : Registration κ) (event : ε) : Run σ ε κ (Verdict × ε) := do
  if !(← answering (·.isPresent registration.id)) then return (.gone, event)
  else if Event.isCancelled event && !registration.subscriber.acceptsCancelled then
    return (.cancelled, event)
  else
    match ← askFilters program nested registration event 0 registration.subscriber.filters with
    | .error payload => return (.failed (.panicked payload), event)
    | .ok false => return (.filtered, event)
    | .ok true =>
      match ← askExpiry program nested registration event with
      | .error payload => return (.failed (.panicked payload), event)
      | .ok true =>
        let _ ← act (revoke registration.subscription)
        return (.expired, event)
      | .ok false => invoke program nested registration event

/-- Offers the event to the receivers, one after the other. -/
def turns [Event ε] (eventType : EventType) :
    List (Registration κ) → ε → Run σ ε κ (List (Turn κ) × ε)
  | [], event => return ([], event)
  | registration :: rest, event => do
    let (verdict, event) ← offer program nested registration event
    note (.settled eventType { registration, verdict })
    let (others, event) ← turns eventType rest event
    return ({ registration, verdict } :: others, event)

/-- Dispatches an event, where `nested` does so for the code that runs meanwhile. -/
def dispatchWith [Event ε] (event : ε) : Run σ ε κ (ε × Outcome κ) := do
  let eventType := Event.eventType event
  let receivers ← answering (·.receivers eventType)
  if receivers.isEmpty then return (event, { eventType })
  act (setRunning (· + 1))
  note (.began eventType receivers)
  let (turns, event) ← turns program nested eventType receivers event
  act (setRunning (· - 1))
  return (event, { eventType, turns })

/-- Dispatches an event, where at most `depth` dispatches may run one inside the other. -/
def dispatch [Event ε] : (depth : Nat) → ε → Run σ ε κ (ε × Outcome κ)
  | 0 => fun _ => OptionT.fail
  | depth + 1 => dispatchWith program (dispatch depth)

/-- Answers a request from outside. -/
def request [Event ε] (depth : Nat) (request : Request σ ε κ) : Run σ ε κ request.Answer :=
  perform (dispatch program depth) request

end Rules

end Roster

end ExtensionHost
