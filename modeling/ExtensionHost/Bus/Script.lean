/-
**Scripts: the code of handlers and predicates, as a sequence of requests.**

The code that a bus runs may call the bus again, share memory with other code, fail and panic. A
script is such code, seen from the bus: it ends, panics, or asks for something and goes on with the
answer.

* `Script`: requests and answers, in the manner of a program that is run step by step.
* `Request`: what handlers and predicates may ask for; `HandlerRequest` adds what only a handler may
  do, which is to change the event that it handles and to dispatch it again.
* `Program`: the scripts behind the names that subscribers give.
* `Outcome`: what a dispatch reports, one `Turn` for each receiver.
-/

import ExtensionHost.Bus.Basic
import ExtensionHost.Event.Basic

namespace ExtensionHost

/-! ### Outcomes -/

/-- What became of one receiver of an event. -/
inductive Verdict where
  /-- The registration had ended before its turn. -/
  | gone
  /-- The event was cancelled, and the subscriber does not accept that. -/
  | cancelled
  /-- A filter refused the event. -/
  | filtered
  /-- The event ended the registration. -/
  | expired
  /-- The handler ran to its end. -/
  | invoked
  /-- The handler or a predicate failed. -/
  | failed (failure : Failure)
deriving DecidableEq, Repr

namespace Verdict

/-- Whether the receiver was passed over. -/
def isSkip : Verdict → Bool
  | gone | cancelled | filtered | expired => true
  | invoked | failed _ => false

/-- The failure, if the delivery failed. -/
def failure? : Verdict → Option Failure
  | failed failure => some failure
  | _ => none

end Verdict

/-- One receiver's turn in a dispatch. -/
structure Turn (κ : Type) where
  /-- The receiver. -/
  registration : Registration κ
  /-- What became of it. -/
  verdict : Verdict

/-- The report of a dispatch. -/
structure Outcome (κ : Type) where
  /-- The type of the event when the dispatch began. -/
  eventType : EventType
  /-- The turns of the receivers, in order. -/
  turns : List (Turn κ) := []

namespace Outcome

variable {κ : Type}

/-- How many handlers ran to their end. -/
def invoked (outcome : Outcome κ) : Nat :=
  outcome.turns.countP fun turn => turn.verdict = .invoked

/-- How many receivers were passed over. -/
def skipped (outcome : Outcome κ) : Nat :=
  outcome.turns.countP fun turn => turn.verdict.isSkip

/-- The error that a failure of this receiver is. -/
def errorOf (eventType : EventType) (registration : Registration κ) (failure : Failure) :
    HandlerError where
  subscriber := registration.identity
  eventType := eventType
  failure := failure

/-- The failed deliveries, in order. -/
def errors (outcome : Outcome κ) : List HandlerError :=
  outcome.turns.filterMap fun turn =>
    turn.verdict.failure?.map (errorOf outcome.eventType turn.registration)

/-- Whether no delivery failed. -/
def isClean (outcome : Outcome κ) : Bool :=
  outcome.errors.isEmpty

end Outcome

/-! ### Scripts -/

/-- Code that ends with a value, panics, or makes a request and goes on with the answer. -/
inductive Script (R : Type) (Answer : R → Type) (α : Type) where
  /-- The end, with a value. -/
  | done (value : α)
  /-- The end by a panic. -/
  | panic (payload : Payload)
  /-- A request, and what is done with its answer. -/
  | ask (request : R) (next : Answer request → Script R Answer α)

namespace Script

variable {R : Type} {Answer : R → Type} {α β : Type}

/-- Runs one script after the other; a panic ends both. -/
def andThen : Script R Answer α → (α → Script R Answer β) → Script R Answer β
  | done value, next => next value
  | panic payload, _ => panic payload
  | ask request answered, next => ask request fun answer => (answered answer).andThen next

instance : Monad (Script R Answer) where
  pure := done
  bind := andThen

/-- A single request, whose answer is the value. -/
def request (request : R) : Script R Answer (Answer request) :=
  ask request done

/-- Runs a script, where `perform` answers the requests. -/
def run {m : Type → Type} [Monad m] (perform : (request : R) → m (Answer request)) :
    Script R Answer α → m (Except Payload α)
  | done value => pure (.ok value)
  | panic payload => pure (.error payload)
  | ask request next => do
    let answer ← perform request
    (next answer).run perform

end Script

/-! ### Requests -/

/-- What any code on the bus may ask for. `σ` is the memory that all code shares, `ε` holds the
events and `κ` the names of code. -/
inductive Request (σ ε κ : Type) where
  /-- The shared memory. -/
  | memory
  /-- A change of the shared memory. -/
  | remember (memory : σ)
  /-- A registration for the subscriber's own event type. -/
  | subscribe (subscriber : Subscriber κ)
  /-- A registration for the given event type. -/
  | subscribeTo (eventType : EventType) (subscriber : Subscriber κ)
  /-- The end of one registration. -/
  | revoke (subscription : Subscription)
  /-- Whether a registration is still on the bus. -/
  | isActive (subscription : Subscription)
  /-- The end of all registrations that match. The order in which the sets are visited is not for
  the code to choose: it is a part of the request in order that all requests stand for all orders. -/
  | unsubscribeIf (selector : Bus.Selector κ) (order : Bus.SetOrder := .stored)
  /-- The dispatch of a new event. -/
  | dispatch (event : ε)
  /-- Whether an event type has receivers. -/
  | isSubscribed (eventType : EventType)
  /-- How many receivers an event type has. -/
  | subscriberCount (eventType : EventType)
  /-- One more handle to the bus. -/
  | retain
  /-- One handle less. -/
  | release
  /-- Nothing more: the code goes no further, and neither does any that waits for it. -/
  | halt

/-- What is answered. A request that needs a handle to the bus is answered `none` when nobody holds
one; `retain` and `release` answer whether someone did. Code that halts gets no answer. -/
@[reducible] def Request.Answer {σ ε κ : Type} : Request σ ε κ → Type
  | memory => σ
  | remember _ => Unit
  | subscribe _ => Option (Except ConfigurationError Subscription)
  | subscribeTo _ _ => Option (Except ConfigurationError Subscription)
  | revoke _ => Bool
  | isActive _ => Bool
  | unsubscribeIf _ _ => Option (Except Payload Nat)
  | dispatch _ => Option (ε × Outcome κ)
  | isSubscribed _ => Option Bool
  | subscriberCount _ => Option Nat
  | retain => Bool
  | release => Bool
  | halt => Empty

/-- What a handler may ask for. -/
inductive HandlerRequest (σ ε κ : Type) where
  /-- What any code may ask for. -/
  | plain (request : Request σ ε κ)
  /-- A change of the event that is being handled. -/
  | amend (change : ε → ε)
  /-- The dispatch of the event that is being handled. -/
  | redispatch

/-- What is answered: an amended event, or the event and the outcome after it was dispatched. -/
@[reducible] def HandlerRequest.Answer {σ ε κ : Type} : HandlerRequest σ ε κ → Type
  | plain request => request.Answer
  | amend _ => ε
  | redispatch => Option (ε × Outcome κ)

/-- The code of a predicate. -/
abbrev Test (σ ε κ : Type) := Script (Request σ ε κ) Request.Answer Bool

/-- The code of a handler, which may end with an error. -/
abbrev Handler (σ ε κ : Type) :=
  Script (HandlerRequest σ ε κ) HandlerRequest.Answer (Except Report Unit)

/-- The code behind the names. -/
structure Program (σ ε κ : Type) where
  /-- What a name does as a predicate on an event. -/
  test : κ → ε → Test σ ε κ
  /-- What a name does as a handler, which is given its own subscription. -/
  handle : κ → Subscription → ε → Handler σ ε κ

end ExtensionHost
