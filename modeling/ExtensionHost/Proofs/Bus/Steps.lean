/-
**Whatever runs on a bus, the session moves by the same few steps.**

* `Session.Operation`: what code can do to a session by itself, one constructor for each operation.
* `Session.Step`: all that can happen next to a session.
* `Run.Operates`, `Run.Advances`: computations that move every session by operations, or by steps,
  also when they do not end.
* `Session.Reached`: the sessions in which runs can be found.
* `Session.Undisturbed`: no predicate on registrations has panicked.
-/

import ExtensionHost.Proofs.Bus.Run
import Mathlib.Logic.Relation

namespace ExtensionHost

open Relation (ReflTransGen)

variable {σ ε κ α β : Type}

/-- Whether an entry tells of a change of the registrations, or of the receivers that are known. -/
def Activity.isChange : Activity ε κ → Bool
  | subscribed _ | revoked _ | removed _ | swept _ | interrupted _ | collected _ _ _ => true
  | began _ _ | tested _ _ _ _ | handling _ _ | settled _ _ => false

/-- Whether an entry tells of a predicate on registrations that panicked. -/
def Activity.isInterruption : Activity ε κ → Bool
  | interrupted _ => true
  | _ => false

/-- What the code of a handler or a predicate can do to a session by itself. -/
inductive Session.Operation : Session σ ε κ → Session σ ε κ → Prop
  /-- The shared memory changes. -/
  | remember (session : Session σ ε κ) (memory : σ) : Operation session { session with memory }
  /-- A registration is made. -/
  | enrol (session : Session σ ε κ) {eventType : EventType} {subscriber : Subscriber κ}
      {registration : Registration κ} {bus : Bus κ}
      (accepted : session.bus.subscribeTo eventType subscriber = .ok (registration, bus)) :
      Operation session (Session.record { session with bus } [.subscribed registration])
  /-- A registration is revoked. -/
  | revoke (session : Session σ ε κ) {subscription : Subscription}
      {registration : Registration κ} {bus : Bus κ}
      (found : session.bus.revoke? subscription = some (registration, bus)) :
      Operation session (Session.record { session with bus } [.revoked registration])
  /-- Registrations are taken away by a predicate. -/
  | sweep (session : Session σ ε κ) (selector : Bus.Selector κ) (order : Bus.SetOrder) :
      Operation session
        (Session.record { session with bus := (session.bus.sweep selector order).bus }
          (Activity.ofSweep (session.bus.sweep selector order)))
  /-- The receivers of an event type are asked for. -/
  | collect (session : Session σ ε κ) (eventType : EventType) :
      Operation session
        (Session.record { session with bus := (session.bus.receivers eventType).bus }
          (Run.collecting session.bus eventType))
  /-- Handles are taken or given up. -/
  | hold (session : Session σ ε κ) (handles : Nat) :
      Operation session { session with bus := { session.bus with handles } }

/-- What can happen next to a session. -/
inductive Session.Step : Session σ ε κ → Session σ ε κ → Prop
  /-- The shared memory changes. -/
  | remember (session : Session σ ε κ) (memory : σ) : Step session { session with memory }
  /-- A registration is made. -/
  | enrol (session : Session σ ε κ) {eventType : EventType} {subscriber : Subscriber κ}
      {registration : Registration κ} {bus : Bus κ}
      (accepted : session.bus.subscribeTo eventType subscriber = .ok (registration, bus)) :
      Step session (Session.record { session with bus } [.subscribed registration])
  /-- A registration is revoked. -/
  | revoke (session : Session σ ε κ) {subscription : Subscription}
      {registration : Registration κ} {bus : Bus κ}
      (found : session.bus.revoke? subscription = some (registration, bus)) :
      Step session (Session.record { session with bus } [.revoked registration])
  /-- Registrations are taken away by a predicate. -/
  | sweep (session : Session σ ε κ) (selector : Bus.Selector κ) (order : Bus.SetOrder) :
      Step session (Session.record { session with bus := (session.bus.sweep selector order).bus }
        (Activity.ofSweep (session.bus.sweep selector order)))
  /-- The receivers of an event type are asked for. -/
  | collect (session : Session σ ε κ) (eventType : EventType) :
      Step session (Session.record { session with bus := (session.bus.receivers eventType).bus }
        (Run.collecting session.bus eventType))
  /-- Handles are taken or given up, or a dispatch begins or ends. -/
  | hold (session : Session σ ε κ) (handles running : Nat) :
      Step session { session with bus := { session.bus with handles, running } }
  /-- An invocation is counted. -/
  | count (session : Session σ ε κ) (id : Nat) :
      Step session { session with bus := session.bus.countInvocation id }
  /-- Something else is put on record. -/
  | note (session : Session σ ε κ) (activity : Activity ε κ) (plain : activity.isChange = false) :
      Step session (session.record [activity])

theorem Session.Operation.step {session later : Session σ ε κ}
    (operation : Operation session later) : Step session later := by
  cases operation with
  | remember memory => exact .remember session memory
  | enrol accepted => exact .enrol session accepted
  | revoke found => exact .revoke session found
  | sweep selector order => exact .sweep session selector order
  | collect eventType => exact .collect session eventType
  | hold handles => exact .hold session handles session.bus.running

namespace Run

/-! ### Operations of the bus -/

/-- A computation that moves every session by operations. -/
def Operates (run : Run σ ε κ α) : Prop :=
  ∀ session, ReflTransGen Session.Operation session (on run session).2

theorem operates_subscribeTo (eventType : EventType) (subscriber : Subscriber κ) :
    Operates (subscribeTo eventType subscriber : Run σ ε κ _) := by
  intro session
  rw [on_subscribeTo, on_enrol]
  cases accepted : session.bus.subscribeTo eventType subscriber with
  | error _ => exact .refl
  | ok result => exact .single (.enrol session accepted)

theorem operates_subscribe (subscriber : Subscriber κ) :
    Operates (subscribe subscriber : Run σ ε κ _) := by
  intro session
  rw [on_subscribe]
  cases typed : subscriber.eventType with
  | none =>
    rw [Bus.subscribe, typed]
    exact .refl
  | some eventType =>
    rw [Bus.subscribe, typed]
    exact operates_subscribeTo eventType subscriber session

theorem operates_revoke (subscription : Subscription) :
    Operates (revoke subscription : Run σ ε κ Bool) := by
  intro session
  rw [on_revoke]
  cases found : session.bus.revoke? subscription with
  | none => exact .refl
  | some result => exact .single (.revoke session found)

theorem operates_unsubscribeIf (selector : Bus.Selector κ) (order : Bus.SetOrder) :
    Operates (unsubscribeIf selector order : Run σ ε κ _) :=
  fun session => .single (.sweep session selector order)

theorem operates_receivers (eventType : EventType) :
    Operates (receivers eventType : Run σ ε κ _) := by
  intro session
  rw [on_receivers]
  exact .single (.collect session eventType)

theorem operates_retain : Operates (retain : Run σ ε κ Bool) := by
  intro session
  rw [on_retain]
  split
  · exact .single (.hold session (session.bus.handles + 1))
  · exact .refl

theorem operates_release : Operates (release : Run σ ε κ Bool) := by
  intro session
  rw [on_release]
  split
  · exact .single (.hold session (session.bus.handles - 1))
  · exact .refl

/-! ### Steps -/

/-- A computation that moves every session by steps. -/
def Advances (run : Run σ ε κ α) : Prop :=
  ∀ session, ReflTransGen Session.Step session (on run session).2

theorem Operates.advances {run : Run σ ε κ α} (operates : Operates run) : Advances run :=
  fun session => ReflTransGen.mono (fun _ _ => Session.Operation.step) _ _ (operates session)

theorem advances_pure (value : α) : Advances (pure value : Run σ ε κ α) :=
  fun _ => .refl

theorem advances_diverge : Advances (diverge : Run σ ε κ α) :=
  fun _ => .refl

theorem advances_bus : Advances (bus : Run σ ε κ (Bus κ)) :=
  fun _ => .refl

theorem advances_get : Advances (get : Run σ ε κ (Session σ ε κ)) :=
  fun _ => .refl

theorem Advances.bind {run : Run σ ε κ α} {next : α → Run σ ε κ β} (first : Advances run)
    (others : ∀ value, Advances (next value)) : Advances (run >>= next) := by
  intro session
  have reached := first session
  rw [on_bind]
  generalize on run session = outcome at reached
  rcases outcome with ⟨_ | value, middle⟩
  · exact reached
  · exact reached.trans (others value middle)

theorem advances_note (activity : Activity ε κ) (plain : activity.isChange = false) :
    Advances (note activity : Run σ ε κ Unit) :=
  fun session => .single (.note session activity plain)

end Run

namespace Dispatch

open Run

theorem advances_setRunning (change : Nat → Nat) :
    Advances (setRunning change : Run σ ε κ Unit) :=
  fun session => .single (.hold session session.bus.handles (change session.bus.running))

theorem advances_countInvocation (registration : Registration κ) :
    Advances (countInvocation registration : Run σ ε κ Unit) := by
  intro session
  rw [on_countInvocation]
  have counted := ReflTransGen.single (Session.Step.count session registration.id)
  split
  · exact counted.trans ((operates_revoke _).advances _)
  · exact counted

end Dispatch

/-! ### Sessions that come about -/

namespace Session

/-- What comes of a script that is run on a new bus, where at most `depth` dispatches may run one
inside the other. -/
def play [Event ε] (program : Program σ ε κ) (depth : Nat) (hierarchy : Hierarchy) (memory : σ)
    (script : Script (Request σ ε κ) Request.Answer α) :
    Option (Except Payload α) × Session σ ε κ :=
  Run.on (script.run (Dispatch.request program depth)) (start hierarchy memory)

/-- A session in which some run can be found, at its end or at any moment when the code of a handler
or a predicate is in control: the code may halt there, and then the session stays as it is. -/
def Reached [Event ε] (hierarchy : Hierarchy) (memory : σ) (session : Session σ ε κ) : Prop :=
  ∃ (program : Program σ ε κ) (depth : Nat) (script : Script (Request σ ε κ) Request.Answer Unit),
    session = (play program depth hierarchy memory script).2

/-- No predicate on registrations has panicked. -/
def Undisturbed (session : Session σ ε κ) : Prop :=
  ∀ entry ∈ session.journal, entry.activity.isInterruption = false

instance (session : Session σ ε κ) : Decidable session.Undisturbed :=
  inferInstanceAs (Decidable (∀ entry ∈ session.journal, entry.activity.isInterruption = false))

theorem Step.journal_grows {session later : Session σ ε κ} (step : Step session later) :
    session.journal <+: later.journal := by
  cases step with
  | remember memory => exact List.prefix_rfl
  | hold handles running => exact List.prefix_rfl
  | count id => exact List.prefix_rfl
  | enrol accepted => exact List.prefix_append _ _
  | revoke found => exact List.prefix_append _ _
  | sweep selector order => exact List.prefix_append _ _
  | collect eventType => exact List.prefix_append _ _
  | note activity plain => exact List.prefix_append _ _

theorem journal_grows_of_steps {session later : Session σ ε κ}
    (steps : ReflTransGen Step session later) : session.journal <+: later.journal := by
  induction steps with
  | refl => exact List.prefix_rfl
  | tail _ step ih => exact ih.trans step.journal_grows

/-- What has not been disturbed in the end was never disturbed. -/
theorem Undisturbed.before {session later : Session σ ε κ} (undisturbed : Undisturbed later)
    (steps : ReflTransGen Step session later) : Undisturbed session :=
  fun entry member => undisturbed entry ((journal_grows_of_steps steps).subset member)

end Session

end ExtensionHost
