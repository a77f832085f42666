/-
**What each operation makes of a session.**

* `on_bind`: computations one after the other.
* `on_revoke`, `on_unsubscribeIf`, `on_receivers` and their like: result and session afterwards, one
  equation for each operation.
-/

import ExtensionHost.Bus.Dispatch

namespace ExtensionHost

variable {σ ε κ α β : Type}

theorem Session.record_nil (session : Session σ ε κ) : session.record [] = session := by
  simp [record]

namespace Run

/-! ### Plain computations -/

theorem on_bind (run : Run σ ε κ α) (next : α → Run σ ε κ β) (session : Session σ ε κ) :
    on (run >>= next) session =
      match on run session with
      | (some value, later) => on (next value) later
      | (none, later) => (none, later) := by
  unfold on
  rw [OptionT.run_bind]
  simp only [Option.elimM, StateT.run_bind]
  rcases StateT.run (OptionT.run run) session with ⟨_ | value, later⟩ <;> rfl

theorem on_bus (session : Session σ ε κ) : on bus session = (some session.bus, session) := rfl

theorem on_setBus (bus : Bus κ) (session : Session σ ε κ) :
    on (setBus bus) session = (some (), { session with bus }) := rfl

theorem on_note (activity : Activity ε κ) (session : Session σ ε κ) :
    on (note activity) session = (some (), session.record [activity]) := rfl

/-! ### Operations of the bus -/

theorem on_enrol (result : Except ConfigurationError (Registration κ × Bus κ))
    (session : Session σ ε κ) :
    on (enrol result) session =
      match result with
      | .error error => (some (.error error), session)
      | .ok (registration, bus) =>
        (some (.ok registration.subscription),
          Session.record { session with bus } [.subscribed registration]) := by
  cases result <;> rfl

theorem on_subscribeTo (eventType : EventType) (subscriber : Subscriber κ)
    (session : Session σ ε κ) :
    on (subscribeTo eventType subscriber) session =
      on (enrol (session.bus.subscribeTo eventType subscriber)) session := rfl

theorem on_subscribe (subscriber : Subscriber κ) (session : Session σ ε κ) :
    on (subscribe subscriber) session = on (enrol (session.bus.subscribe subscriber)) session := rfl

theorem on_revoke (subscription : Subscription) (session : Session σ ε κ) :
    on (revoke subscription) session =
      match session.bus.revoke? subscription with
      | none => (some false, session)
      | some (registration, bus) =>
        (some true, Session.record { session with bus } [.revoked registration]) := by
  unfold revoke
  rw [on_bind, on_bus]
  dsimp only
  cases session.bus.revoke? subscription <;> rfl

theorem on_unsubscribeIf (selector : Bus.Selector κ) (order : Bus.SetOrder)
    (session : Session σ ε κ) :
    on (unsubscribeIf selector order) session =
      (some (session.bus.sweep selector order).answer,
        Session.record { session with bus := (session.bus.sweep selector order).bus }
          (Activity.ofSweep (session.bus.sweep selector order))) := rfl

/-- The entries about the receivers of an event type. -/
def collecting (bus : Bus κ) (eventType : EventType) : List (Activity ε κ) :=
  if (bus.receivers eventType).computed then
    [.collected eventType ((bus.receivers eventType).bus.hierarchy.lineage eventType).length
      (bus.receivers eventType).list]
  else []

theorem on_receivers (eventType : EventType) (session : Session σ ε κ) :
    on (receivers eventType) session =
      (some (session.bus.receivers eventType).list,
        Session.record { session with bus := (session.bus.receivers eventType).bus }
          (collecting session.bus eventType)) := by
  unfold receivers collecting
  rw [on_bind, on_bus]
  dsimp only
  rw [on_bind, on_setBus]
  cases (session.bus.receivers eventType).computed with
  | true => rfl
  | false =>
    show (some (session.bus.receivers eventType).list, _) = _
    rw [if_neg Bool.false_ne_true, Session.record_nil]

theorem on_retain (session : Session σ ε κ) :
    on retain session =
      if 0 < session.bus.handles then
        (some true, { session with bus := { session.bus with handles := session.bus.handles + 1 } })
      else (some false, session) := by
  unfold retain
  rw [on_bind, on_bus]
  dsimp only
  split <;> rfl

theorem on_release (session : Session σ ε κ) :
    on release session =
      if 0 < session.bus.handles then
        (some true, { session with bus := { session.bus with handles := session.bus.handles - 1 } })
      else (some false, session) := by
  unfold release
  rw [on_bind, on_bus]
  dsimp only
  split <;> rfl

end Run

namespace Dispatch

theorem on_setRunning (change : Nat → Nat) (session : Session σ ε κ) :
    Run.on (setRunning change) session =
      (some (), { session with
        bus := { session.bus with running := change session.bus.running } }) := rfl

theorem on_countInvocation (registration : Registration κ) (session : Session σ ε κ) :
    Run.on (countInvocation registration) session =
      if (session.bus.standing registration.id).remaining = some 1 then
        (some (), (Run.on (Run.revoke registration.subscription)
          { session with bus := session.bus.countInvocation registration.id }).2)
      else (some (), { session with bus := session.bus.countInvocation registration.id }) := by
  unfold countInvocation
  rw [Run.on_bind, Run.on_bus]
  dsimp only
  rw [Run.on_bind, Run.on_setBus]
  dsimp only
  split
  · rw [Run.on_bind, Run.on_revoke]
    dsimp only
    cases (session.bus.countInvocation registration.id).revoke? registration.subscription <;> rfl
  · rfl

end Dispatch

end ExtensionHost
