/-
**The dispatches that are running form a stack, and only the innermost one can move.**

* `Session.Extends`: what operations add to a session. They leave the number of running dispatches
  and the invocations that are left.
* `Moment.Ordered`: there are as many frames as dispatches are running, all but the innermost have
  called code, and the receivers in them were registered.
* `Move.ordered`, `ordered_of_reached`: so it is at every moment.
-/

import ExtensionHost.Proofs.Bus.Accounts

namespace ExtensionHost

open Relation (ReflTransGen)

variable {σ ε κ : Type}

/-! ### What operations add -/

theorem Activity.isChange_of_mem_ofSweep {sweep : Bus.Sweep κ} {activity : Activity ε κ}
    (member : activity ∈ (ofSweep sweep : List (Activity ε κ))) : activity.isChange = true := by
  unfold ofSweep at member
  rcases List.mem_append.mp member with one | rest
  · obtain ⟨registration, -, rfl⟩ := List.mem_map.mp one
    rfl
  · cases panicked : sweep.panic with
    | some payload =>
      rw [panicked] at rest
      rw [List.mem_singleton.mp rest]
      rfl
    | none =>
      rw [panicked] at rest
      dsimp only at rest
      split at rest
      · exact absurd rest List.not_mem_nil
      · rw [List.mem_singleton.mp rest]
        rfl

/-- Whether an entry stands between the turns of a dispatch. -/
def Activity.isBoundary : Activity ε κ → Bool
  | began _ _ | settled _ _ => true
  | _ => false

theorem Activity.isBoundary_of_isChange {activity : Activity ε κ}
    (change : activity.isChange = true) : activity.isBoundary = false := by
  cases activity <;> first | rfl | cases change

namespace Session

/-- The entries that activities make in the journal of a session. -/
def entries (session : Session σ ε κ) (activities : List (Activity ε κ)) : List (Entry ε κ) :=
  activities.map fun activity => { depth := session.bus.running, activity }

/-- The later session comes from operations on the earlier one. -/
structure Extends (session later : Session σ ε κ) (activities : List (Activity ε κ)) : Prop where
  running : later.bus.running = session.bus.running
  journal : later.journal = session.journal ++ session.entries activities
  changes : ∀ activity ∈ activities, activity.isChange = true
  nextId : session.bus.nextId ≤ later.bus.nextId
  /-- No invocation is counted. -/
  remaining : ∀ id < session.bus.nextId,
    (later.bus.standing id).remaining = (session.bus.standing id).remaining
  /-- New registrations have all their invocations left. -/
  made : ∀ registration ∈ activities.filterMap Activity.enrolled?,
    session.bus.nextId ≤ registration.id ∧ registration.id < later.bus.nextId ∧
      (later.bus.standing registration.id).remaining =
        registration.subscriber.limit.map Subtype.val

theorem Extends.refl (session : Session σ ε κ) : session.Extends session [] where
  running := rfl
  journal := (List.append_nil _).symm
  changes _ member := absurd member List.not_mem_nil
  nextId := Nat.le_refl _
  remaining _ _ := rfl
  made _ member := absurd member List.not_mem_nil

theorem Extends.trans {session middle later : Session σ ε κ} {first second : List (Activity ε κ)}
    (early : session.Extends middle first) (late : middle.Extends later second) :
    session.Extends later (first ++ second) where
  running := late.running.trans early.running
  journal := by
    rw [late.journal, early.journal, List.append_assoc]
    unfold entries
    rw [early.running, List.map_append]
  changes activity member := (List.mem_append.mp member).elim (early.changes _) (late.changes _)
  nextId := Nat.le_trans early.nextId late.nextId
  remaining id old := by
    rw [late.remaining id (Nat.lt_of_lt_of_le old early.nextId), early.remaining id old]
  made registration member := by
    rw [List.filterMap_append, List.mem_append] at member
    rcases member with old | new
    · obtain ⟨low, high, fresh⟩ := early.made registration old
      refine ⟨low, Nat.lt_of_lt_of_le high late.nextId, ?_⟩
      rw [late.remaining _ high, fresh]
    · obtain ⟨low, high, fresh⟩ := late.made registration new
      exact ⟨Nat.le_trans early.nextId low, high, fresh⟩

theorem Extends.enrolled {session later : Session σ ε κ} {activities : List (Activity ε κ)}
    (extending : session.Extends later activities) :
    later.enrolled = session.enrolled ++ activities.filterMap Activity.enrolled? := by
  unfold Session.enrolled
  rw [extending.journal, List.filterMap_append]
  unfold entries
  rw [List.filterMap_map]
  rfl

/-- Nothing but the bus changes, and not its numbers; nothing is registered. -/
theorem extends_record {session : Session σ ε κ} {bus : Bus κ} {activities : List (Activity ε κ)}
    (running : bus.running = session.bus.running) (nextId : bus.nextId = session.bus.nextId)
    (changes : ∀ activity ∈ activities, activity.isChange = true)
    (none_made : activities.filterMap Activity.enrolled? = [])
    (remaining : ∀ id, (bus.standing id).remaining = (session.bus.standing id).remaining) :
    session.Extends (Session.record { session with bus } activities) activities where
  running := running
  journal := by
    unfold entries
    rw [← running]
    rfl
  changes := changes
  nextId := Nat.le_of_eq nextId.symm
  remaining id _ := remaining id
  made _ member := by
    rw [none_made] at member
    exact absurd member List.not_mem_nil

theorem Operation.extends {session later : Session σ ε κ} (operation : Operation session later) :
    ∃ activities, session.Extends later activities := by
  cases operation with
  | remember memory => exact ⟨[], { Extends.refl session with }⟩
  | @enrol eventType subscriber registration bus accepted =>
    obtain ⟨-, gains⟩ := Bus.gains_of_subscribeTo accepted
    have number := gains.id_eq
    have next : bus.nextId = session.bus.nextId + 1 := gains.nextId
    refine ⟨[.subscribed registration], gains.running, ?_, ?_, ?_, fun id old => ?_, ?_⟩
    · unfold entries
      rw [← gains.running]
      rfl
    · exact List.forall_mem_singleton.mpr rfl
    · show session.bus.nextId ≤ bus.nextId
      omega
    · show (bus.standing id).remaining = _
      rw [gains.standing, if_neg (by omega)]
    · intro other member
      rw [List.mem_singleton.mp member]
      refine ⟨Nat.le_of_eq number.symm, ?_, ?_⟩
      · show registration.id < bus.nextId
        omega
      · show (bus.standing registration.id).remaining = _
        rw [gains.standing, if_pos rfl]
        rfl
  | @revoke subscription registration bus found =>
    obtain ⟨-, rfl⟩ := Bus.revoke?_eq_some found
    refine ⟨[.revoked registration], extends_record rfl rfl ?_ rfl fun id => ?_⟩
    · exact List.forall_mem_singleton.mpr rfl
    · show (((session.bus.standings.modify _ _).get? id).getD _).remaining = _
      rw [Bus.standing_modify _ _ _ _ rfl]
      split <;> rfl
  | sweep selector order =>
    have loses := session.bus.loses_sweep selector order
    refine ⟨_, extends_record loses.running loses.nextId
      (fun _ => Activity.isChange_of_mem_ofSweep) (Activity.filterMap_enrolled?_ofSweep _)
      fun id => ?_⟩
    rw [loses.standing]
    split <;> rfl
  | collect eventType =>
    obtain ⟨cache, same⟩ := session.bus.receivers_bus eventType
    refine ⟨_, extends_record ?_ ?_ ?_ ?_ fun id => ?_⟩
    · rw [same]
    · rw [same]
    · unfold Run.collecting
      split
      · exact List.forall_mem_singleton.mpr rfl
      · exact fun _ member => absurd member List.not_mem_nil
    · unfold Run.collecting
      split <;> rfl
    · rw [same]
      rfl
  | hold handles => exact ⟨[], { Extends.refl session with }⟩

theorem extends_of_operations {session later : Session σ ε κ}
    (operations : ReflTransGen Operation session later) :
    ∃ activities, session.Extends later activities := by
  induction operations with
  | refl => exact ⟨[], .refl session⟩
  | tail _ operation ih =>
    obtain ⟨first, early⟩ := ih
    obtain ⟨second, late⟩ := operation.extends
    exact ⟨first ++ second, early.trans late⟩

end Session

theorem Dispatch.extends_countInvocation (registration : Registration κ)
    (session : Session σ ε κ) :
    ∃ activities, Session.Extends
      { session with bus := session.bus.countInvocation registration.id }
      (Run.on (countInvocation registration) session).2 activities := by
  rw [on_countInvocation]
  split
  · exact Session.extends_of_operations (Run.operates_revoke _ _)
  · exact ⟨[], .refl _⟩

/-- The last invocation that a limit allows ends the registration. -/
theorem Session.Accounted.not_live_of_last {session : Session σ ε κ}
    (accounted : session.Accounted) (alive : session.bus.isAlive = true)
    {registration : Registration κ} (member : registration ∈ session.enrolled)
    (last : (session.bus.standing registration.id).remaining = some 1) :
    ((Run.on (Dispatch.countInvocation registration) session).2.bus.standing
      registration.id).live = false := by
  have counted := (Step.count session registration.id).accounted accounted
  rw [Dispatch.on_countInvocation, if_pos last]
  dsimp only
  rw [Run.on_revoke]
  cases found : (session.bus.countInvocation registration.id).revoke? registration.subscription with
  | none =>
    have missing := (Option.map_eq_none_iff.mp found).symm.trans (counted.find?_eq alive member)
    rw [← Bool.not_eq_true]
    intro live
    rw [if_pos live] at missing
    cases missing
  | some result =>
    have loses := counted.sound.loses_revoked found
    show (result.2.standing registration.id).live = false
    have gone : decide (registration.id = registration.subscription.id) = true := decide_eq_true rfl
    rw [loses.standing, if_pos gone]
    rfl

/-! ### The stack -/

/-- The receiver whose turn has begun. -/
def Stage.receiver? : Stage κ → Option (Registration κ)
  | between => none
  | asked registration | asking registration | handling registration => some registration
  | finished turn => some turn.registration

/-- The receivers whose turns are not on record, in order. -/
def Frame.pending (frame : Frame κ) : List (Registration κ) :=
  frame.stage.receiver?.toList ++ frame.waiting

namespace Moment

/-- The session is accounted for, and the frames are those of its running dispatches. -/
structure Ordered (moment : Moment σ ε κ) : Prop where
  accounted : moment.session.Accounted
  running : moment.session.bus.running = moment.frames.length
  /-- All dispatches but the innermost have called code. -/
  called : ∀ frame ∈ moment.frames.tail, frame.stage.runsCode = true
  enrolled : ∀ frame ∈ moment.frames, ∀ registration ∈ frame.pending,
    registration ∈ moment.session.enrolled

namespace Ordered

variable {frame next : Frame κ} {frames outer : List (Frame κ)} {session later : Session σ ε κ}

theorem all_called (ordered : Ordered ⟨frames, session⟩) (control : InControl frames) :
    ∀ frame ∈ frames, frame.stage.runsCode = true := by
  intro frame member
  cases frames with
  | nil => exact absurd member List.not_mem_nil
  | cons top outer =>
    rcases List.mem_cons.mp member with rfl | below
    · exact inControl_cons.mp control
    · exact ordered.called frame below

/-- The frames stay, while the session goes on. -/
theorem goes_on (ordered : Ordered ⟨frames, session⟩)
    (steps : ReflTransGen Session.Step session later)
    (running : later.bus.running = session.bus.running) : Ordered ⟨frames, later⟩ where
  accounted := Session.accounted_of_steps steps ordered.accounted
  running := running.trans ordered.running
  called := ordered.called
  enrolled frame member registration pending :=
    Session.enrolled_subset_of_steps steps (ordered.enrolled frame member registration pending)

/-- The innermost dispatch moves on, with no receiver that it did not have before. -/
theorem replace (ordered : Ordered ⟨frame :: outer, session⟩)
    (pending : next.pending ⊆ frame.pending) : Ordered ⟨next :: outer, session⟩ where
  accounted := ordered.accounted
  running := ordered.running
  called := ordered.called
  enrolled other member := by
    rcases List.mem_cons.mp member with rfl | below
    · exact fun registration present =>
        ordered.enrolled frame List.mem_cons_self registration (pending present)
    · exact ordered.enrolled other (List.mem_cons_of_mem _ below)

theorem enter (ordered : Ordered ⟨frames, session⟩) (control : InControl frames)
    (eventType : EventType) (known : ∀ registration ∈ next.pending,
      registration ∈ session.enrolled) :
    Ordered ⟨next :: frames,
      (session.withRunning (session.bus.running + 1)).record
        [.began eventType next.waiting]⟩ where
  accounted := by
    have steps : ReflTransGen Session.Step session
        ((session.withRunning (session.bus.running + 1)).record
          [.began eventType next.waiting]) :=
      .tail (.single (.hold _ _ _)) (.note _ _ rfl)
    exact Session.accounted_of_steps steps ordered.accounted
  running := congrArg (· + 1) ordered.running
  called := ordered.all_called control
  enrolled other member := by
    rw [Session.enrolled_record_of_none rfl]
    intro registration pending
    rcases List.mem_cons.mp member with rfl | below
    · exact known registration pending
    · exact ordered.enrolled other below registration pending

theorem leave (ordered : Ordered ⟨frame :: outer, session⟩) :
    Ordered ⟨outer, session.withRunning (session.bus.running - 1)⟩ where
  accounted := Session.accounted_of_steps (.single (.hold _ _ _)) ordered.accounted
  running := congrArg (· - 1) ordered.running
  called other member := ordered.called other (List.mem_of_mem_tail member)
  enrolled other member := ordered.enrolled other (List.mem_cons_of_mem _ member)

end Ordered

end Moment

theorem Move.ordered {moment later : Moment σ ε κ} (move : Move moment later)
    (ordered : moment.Ordered) : later.Ordered := by
  have steps := move.steps
  cases move with
  | operate control operation =>
    obtain ⟨activities, extending⟩ := operation.extends
    exact ordered.goes_on steps extending.running
  | enter control known occupied =>
    exact ordered.enter control _ (ordered.accounted.known known)
  | accept | decline | ask | refuse | fail =>
    exact ordered.replace fun _ member => member
  | answer | panic | start =>
    exact (ordered.goes_on steps rfl).replace fun _ member => member
  | expire =>
    obtain ⟨activities, extending⟩ := Session.extends_of_operations (Run.operates_revoke _ _)
    exact (ordered.goes_on steps extending.running).replace fun _ member => member
  | count =>
    obtain ⟨activities, extending⟩ := Dispatch.extends_countInvocation _ _
    exact (ordered.goes_on steps extending.running).replace fun _ member => member
  | settle =>
    exact (ordered.goes_on steps rfl).replace fun _ member => List.mem_cons_of_mem _ member
  | leave => exact ordered.leave

theorem ordered_of_moves {hierarchy : Hierarchy} {memory : σ} {moment : Moment σ ε κ}
    (moves : ReflTransGen Move ⟨[], .start hierarchy memory⟩ moment) : moment.Ordered := by
  induction moves with
  | refl =>
    refine ⟨Session.accounted_start hierarchy memory, rfl, ?_, ?_⟩
    · exact fun _ member => absurd member List.not_mem_nil
    · exact fun _ member => absurd member List.not_mem_nil
  | tail _ move ih => exact move.ordered ih

end ExtensionHost
