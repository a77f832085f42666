/-
**Dispatch: an event is offered to each of its receivers in turn.**

The receivers are those known when the dispatch begins. A receiver whose registration has ended is
passed over, and so is one that does not accept cancelled events while the event is cancelled. Then
its filters are asked, then the predicate that ends the registration, and then its handler runs. A
failure of any of them is a part of the outcome and stops nothing.

* `Dispatch.admission`: filters and expiry.
* `Dispatch.deliver`: admission, handler and invocation count.
* `Dispatch.turn`: one receiver's turn.
* `Dispatch.dispatch`: the whole dispatch, where at most so many may run one inside the other.
* `Dispatch.perform`: the answer to any request.
-/

import ExtensionHost.Bus.Session

namespace ExtensionHost

variable {σ ε κ : Type} [Event ε]

/-- What the predicates of a subscriber say to an event. -/
inductive Admission where
  /-- The handler is to run. -/
  | admitted
  /-- A filter refused. -/
  | filtered
  /-- The registration ended. -/
  | expired
deriving DecidableEq, Repr

namespace Dispatch

/-! ### Requests -/

/-- Answers a request, where `nested` dispatches an event. -/
def perform (nested : ε → Run σ ε κ (ε × Outcome κ)) :
    (request : Request σ ε κ) → Run σ ε κ request.Answer
  | .memory => return (← get).memory
  | .remember memory => modify fun session => { session with memory }
  | .subscribe subscriber => Run.withHandle (Run.subscribe subscriber)
  | .subscribeTo eventType subscriber => Run.withHandle (Run.subscribeTo eventType subscriber)
  | .revoke subscription => Run.revoke subscription
  | .isActive subscription => return (← Run.bus).isActive subscription
  | .unsubscribeIf selector order => Run.withHandle (Run.unsubscribeIf selector order)
  | .dispatch event => Run.withHandle (nested event)
  | .isSubscribed eventType => Run.withHandle do return (← Run.bus).isSubscribed eventType
  | .subscriberCount eventType => Run.withHandle do return (← Run.bus).subscriberCount eventType
  | .retain => Run.retain
  | .release => Run.release
  | .halt => Run.diverge

/-- Answers a request of a handler, whose event is the state. -/
def performForHandler (nested : ε → Run σ ε κ (ε × Outcome κ)) :
    (request : HandlerRequest σ ε κ) → StateT ε (Run σ ε κ) request.Answer
  | .plain request => liftM (perform nested request)
  | .amend change => do
    modify change
    get
  | .redispatch => do
    let answer ← liftM (Run.withHandle (nested (← get)))
    if let some (event, _) := answer then set event
    return answer

/-! ### Delivery -/

variable (program : Program σ ε κ) (nested : ε → Run σ ε κ (ε × Outcome κ))

/-- Asks one predicate of a receiver about the event. -/
def ask (registration : Registration κ) (check : Check) (test : κ) (event : ε) :
    Run σ ε κ (Except Payload Bool) := do
  let answer ← (program.test test event).run (perform nested)
  Run.note (.tested registration check event answer)
  return answer

/-- Asks the filters from one place on, up to the first that does not let the event pass. -/
def askFilters (registration : Registration κ) (event : ε) :
    (index : Nat) → List κ → Run σ ε κ (Except Payload Bool)
  | _, [] => return .ok true
  | index, filter :: rest => do
    match ← ask program nested registration (.filter index) filter event with
    | .ok true => askFilters registration event (index + 1) rest
    | answer => return answer

/-- Asks the predicate that ends the registration, if there is one, and ends it. -/
def askExpiry (registration : Registration κ) (event : ε) :
    Run σ ε κ (Except Payload Admission) := do
  match registration.subscriber.expireWhen with
  | none => return .ok .admitted
  | some test =>
    match ← ask program nested registration .expiry test event with
    | .error payload => return .error payload
    | .ok false => return .ok .admitted
    | .ok true =>
      let _ ← Run.revoke registration.subscription
      return .ok .expired

/-- Asks all predicates of a receiver. -/
def admission (registration : Registration κ) (event : ε) :
    Run σ ε κ (Except Payload Admission) := do
  match ← askFilters program nested registration event 0 registration.subscriber.filters with
  | .error payload => return .error payload
  | .ok false => return .ok .filtered
  | .ok true => askExpiry program nested registration event

/-- Runs the handler of a receiver; the event is as the handler leaves it, however it ends. -/
def handle (registration : Registration κ) (event : ε) :
    Run σ ε κ (Except Payload (Except Report Unit) × ε) := do
  Run.note (.handling registration event)
  ((program.handle registration.subscriber.handler registration.subscription event).run
    (performForHandler nested)).run event

/-- Counts an invocation, and ends the registration when it was the last one allowed. -/
def countInvocation (registration : Registration κ) : Run σ ε κ Unit := do
  let bus ← Run.bus
  let last := (bus.standing registration.id).remaining = some 1
  Run.setBus (bus.countInvocation registration.id)
  if last then
    let _ ← Run.revoke registration.subscription

/-- Offers the event to a receiver. -/
def deliver (registration : Registration κ) (event : ε) : Run σ ε κ (Verdict × ε) := do
  match ← admission program nested registration event with
  | .error payload => return (.failed (.panicked payload), event)
  | .ok .filtered => return (.filtered, event)
  | .ok .expired => return (.expired, event)
  | .ok .admitted =>
    let (result, event) ← handle program nested registration event
    match result with
    | .error payload => return (.failed (.panicked payload), event)
    | .ok (.error report) => return (.failed (.returned report), event)
    | .ok (.ok ()) =>
      countInvocation registration
      return (.invoked, event)

/-! ### Dispatch -/

/-- Decides whether a receiver is passed over, and offers the event to it if not. -/
def offer (registration : Registration κ) (event : ε) : Run σ ε κ (Verdict × ε) := do
  if !((← Run.bus).standing registration.id).live then return (.gone, event)
  else if Event.isCancelled event && !registration.subscriber.acceptsCancelled then
    return (.cancelled, event)
  else deliver program nested registration event

/-- The turn of one receiver in a dispatch of the given type. -/
def turn (eventType : EventType) (registration : Registration κ) (event : ε) :
    Run σ ε κ (Turn κ × ε) := do
  let (verdict, event) ← offer program nested registration event
  let turn : Turn κ := { registration, verdict }
  Run.note (.settled eventType turn)
  return (turn, event)

/-- The turns of the receivers, one after the other. -/
def turns (eventType : EventType) : List (Registration κ) → ε → Run σ ε κ (List (Turn κ) × ε)
  | [], event => return ([], event)
  | registration :: rest, event => do
    let (first, event) ← turn program nested eventType registration event
    let (others, event) ← turns eventType rest event
    return (first :: others, event)

/-- Changes the number of running dispatches. -/
def setRunning (change : Nat → Nat) : Run σ ε κ Unit := do
  let bus ← Run.bus
  Run.setBus { bus with running := change bus.running }

/-- Dispatches an event, where `nested` does so for the code that runs meanwhile. -/
def dispatchWith (event : ε) : Run σ ε κ (ε × Outcome κ) := do
  let eventType := Event.eventType event
  let receivers ← Run.receivers eventType
  if receivers.isEmpty then return (event, { eventType })
  setRunning (· + 1)
  Run.note (.began eventType receivers)
  let (turns, event) ← turns program nested eventType receivers event
  setRunning (· - 1)
  return (event, { eventType, turns })

/-- Dispatches an event, where at most `depth` dispatches may run one inside the other. -/
def dispatch : (depth : Nat) → ε → Run σ ε κ (ε × Outcome κ)
  | 0 => fun _ => Run.diverge
  | depth + 1 => dispatchWith program (dispatch depth)

/-- Answers a request from outside, where at most `depth` dispatches may run one inside the
other. -/
def request (depth : Nat) (request : Request σ ε κ) : Run σ ε κ request.Answer :=
  perform (dispatch program depth) request

end Dispatch

end ExtensionHost
