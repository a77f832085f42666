/-
**A dispatch as a machine: a stack of running dispatches, and the moves between them.**

Code is in control when no dispatch is running, or when the innermost one has called a predicate or
a handler. It operates on the session, or it enters a dispatch of its own. All that a dispatch does
between such calls are moves of its own frame.

* `Frame`, `Moment`: a running dispatch, and a session with all that are running.
* `Move`: what can happen next, one constructor for each thing that code or a dispatch can do.
* `Run.Moves`: a computation that takes a stack of frames to another one by moves.
* `moves_perform`, `moves_offer`, `moves_dispatchWith` and their like: all parts of a dispatch do
  so, whatever the code of handlers and predicates.
* `Reached.controlled`, `Reached.moves`: every session in which a run can be found belongs to such a
  moment. What the moves preserve holds of all runs.
-/

import ExtensionHost.Proofs.Bus.Operations
import ExtensionHost.Proofs.Bus.Steps

namespace ExtensionHost

open Relation (ReflTransGen)

variable {σ ε κ α β : Type}

/-! ### Frames and moves -/

/-- How far a dispatch has come with the receiver whose turn it is. -/
inductive Stage (κ : Type) where
  /-- Nobody's turn has begun. -/
  | between
  /-- The receiver was live, and all predicates asked so far have answered. -/
  | asked (registration : Registration κ)
  /-- One of its predicates runs. -/
  | asking (registration : Registration κ)
  /-- Its handler runs. -/
  | handling (registration : Registration κ)
  /-- Its turn is over, but not on record. -/
  | finished (turn : Turn κ)

/-- Whether code of the receiver runs. -/
def Stage.runsCode : Stage κ → Bool
  | asking _ | handling _ => true
  | between | asked _ | finished _ => false

/-- A dispatch that is running. -/
structure Frame (κ : Type) where
  /-- The type of the event when the dispatch began. -/
  eventType : EventType
  /-- How far it has come. -/
  stage : Stage κ
  /-- The receivers whose turns have not begun, in order. -/
  waiting : List (Registration κ)

/-- A session with the dispatches that are running, the innermost first. -/
structure Moment (σ ε κ : Type) where
  /-- The dispatches. -/
  frames : List (Frame κ)
  /-- The session. -/
  session : Session σ ε κ

/-- Code runs, either that of the innermost dispatch or that from outside. -/
def InControl (frames : List (Frame κ)) : Prop :=
  ∀ frame ∈ frames.head?, frame.stage.runsCode = true

theorem inControl_nil : InControl ([] : List (Frame κ)) :=
  fun _ none => nomatch none

theorem inControl_cons {frame : Frame κ} {outer : List (Frame κ)} :
    InControl (frame :: outer) ↔ frame.stage.runsCode = true := by
  simp [InControl]

/-- Another number of running dispatches. -/
def Session.withRunning (session : Session σ ε κ) (running : Nat) : Session σ ε κ :=
  { session with bus := { session.bus with running } }

/-- What can happen next. -/
inductive Move : Moment σ ε κ → Moment σ ε κ → Prop
  /-- Code operates on the session. -/
  | operate {frames : List (Frame κ)} {session later : Session σ ε κ} (control : InControl frames)
      (operation : Session.Operation session later) : Move ⟨frames, session⟩ ⟨frames, later⟩
  /-- Code enters a dispatch, to the receivers that are known. -/
  | enter {frames : List (Frame κ)} {session : Session σ ε κ} {eventType : EventType}
      {receivers : List (Registration κ)} (control : InControl frames)
      (known : session.bus.cache.get? eventType = some receivers) (occupied : receivers ≠ []) :
      Move ⟨frames, session⟩
        ⟨⟨eventType, .between, receivers⟩ :: frames,
          (session.withRunning (session.bus.running + 1)).record [.began eventType receivers]⟩
  /-- The next receiver is live, and not passed over. -/
  | accept {frames : List (Frame κ)} {session : Session σ ε κ} {eventType : EventType}
      {registration : Registration κ} {rest : List (Registration κ)}
      (live : (session.bus.standing registration.id).live = true) :
      Move ⟨⟨eventType, .between, registration :: rest⟩ :: frames, session⟩
        ⟨⟨eventType, .asked registration, rest⟩ :: frames, session⟩
  /-- The next receiver is passed over, because it is gone or the event is cancelled. -/
  | decline {frames : List (Frame κ)} {session : Session σ ε κ} {eventType : EventType}
      {registration : Registration κ} {rest : List (Registration κ)} {verdict : Verdict}
      (why : verdict = if (session.bus.standing registration.id).live then .cancelled else .gone) :
      Move ⟨⟨eventType, .between, registration :: rest⟩ :: frames, session⟩
        ⟨⟨eventType, .finished ⟨registration, verdict⟩, rest⟩ :: frames, session⟩
  /-- A predicate of the receiver is called. -/
  | ask {frames : List (Frame κ)} {session : Session σ ε κ} {eventType : EventType}
      {registration : Registration κ} {rest : List (Registration κ)} :
      Move ⟨⟨eventType, .asked registration, rest⟩ :: frames, session⟩
        ⟨⟨eventType, .asking registration, rest⟩ :: frames, session⟩
  /-- The predicate answers. -/
  | answer {frames : List (Frame κ)} {session : Session σ ε κ} {eventType : EventType}
      {registration : Registration κ} {rest : List (Registration κ)} (check : Check) (event : ε)
      (holds : Bool) :
      Move ⟨⟨eventType, .asking registration, rest⟩ :: frames, session⟩
        ⟨⟨eventType, .asked registration, rest⟩ :: frames,
          session.record [.tested registration check event (.ok holds)]⟩
  /-- The predicate panics. -/
  | panic {frames : List (Frame κ)} {session : Session σ ε κ} {eventType : EventType}
      {registration : Registration κ} {rest : List (Registration κ)} (check : Check) (event : ε)
      (payload : Payload) :
      Move ⟨⟨eventType, .asking registration, rest⟩ :: frames, session⟩
        ⟨⟨eventType, .finished ⟨registration, .failed (.panicked payload)⟩, rest⟩ :: frames,
          session.record [.tested registration check event (.error payload)]⟩
  /-- A filter has refused. -/
  | refuse {frames : List (Frame κ)} {session : Session σ ε κ} {eventType : EventType}
      {registration : Registration κ} {rest : List (Registration κ)} :
      Move ⟨⟨eventType, .asked registration, rest⟩ :: frames, session⟩
        ⟨⟨eventType, .finished ⟨registration, .filtered⟩, rest⟩ :: frames, session⟩
  /-- The event ends the registration. -/
  | expire {frames : List (Frame κ)} {session : Session σ ε κ} {eventType : EventType}
      {registration : Registration κ} {rest : List (Registration κ)} :
      Move ⟨⟨eventType, .asked registration, rest⟩ :: frames, session⟩
        ⟨⟨eventType, .finished ⟨registration, .expired⟩, rest⟩ :: frames,
          (Run.on (Run.revoke registration.subscription) session).2⟩
  /-- The handler is started. -/
  | start {frames : List (Frame κ)} {session : Session σ ε κ} {eventType : EventType}
      {registration : Registration κ} {rest : List (Registration κ)} (event : ε) :
      Move ⟨⟨eventType, .asked registration, rest⟩ :: frames, session⟩
        ⟨⟨eventType, .handling registration, rest⟩ :: frames,
          session.record [.handling registration event]⟩
  /-- The handler fails. -/
  | fail {frames : List (Frame κ)} {session : Session σ ε κ} {eventType : EventType}
      {registration : Registration κ} {rest : List (Registration κ)} (failure : Failure) :
      Move ⟨⟨eventType, .handling registration, rest⟩ :: frames, session⟩
        ⟨⟨eventType, .finished ⟨registration, .failed failure⟩, rest⟩ :: frames, session⟩
  /-- The handler ends, and the invocation is counted. -/
  | count {frames : List (Frame κ)} {session : Session σ ε κ} {eventType : EventType}
      {registration : Registration κ} {rest : List (Registration κ)} :
      Move ⟨⟨eventType, .handling registration, rest⟩ :: frames, session⟩
        ⟨⟨eventType, .finished ⟨registration, .invoked⟩, rest⟩ :: frames,
          (Run.on (Dispatch.countInvocation registration) session).2⟩
  /-- The turn is put on record. -/
  | settle {frames : List (Frame κ)} {session : Session σ ε κ} {eventType : EventType}
      {turn : Turn κ} {rest : List (Registration κ)} :
      Move ⟨⟨eventType, .finished turn, rest⟩ :: frames, session⟩
        ⟨⟨eventType, .between, rest⟩ :: frames, session.record [.settled eventType turn]⟩
  /-- All turns are over. -/
  | leave {frames : List (Frame κ)} {session : Session σ ε κ} {eventType : EventType} :
      Move ⟨⟨eventType, .between, []⟩ :: frames, session⟩
        ⟨frames, session.withRunning (session.bus.running - 1)⟩

/-- Each move is a few steps of the session. -/
theorem Move.steps {moment next : Moment σ ε κ} (move : Move moment next) :
    ReflTransGen Session.Step moment.session next.session := by
  cases move with
  | operate control operation => exact .single operation.step
  | enter control known occupied =>
    exact .tail (.single (.hold _ _ _)) (.note _ _ rfl)
  | accept | decline | ask | refuse | fail => exact .refl
  | answer | panic | start | settle => exact .single (.note _ _ rfl)
  | expire => exact (Run.operates_revoke _).advances _
  | count => exact Dispatch.advances_countInvocation _ _
  | leave => exact .single (.hold _ _ _)

theorem steps_of_moves {moment next : Moment σ ε κ} (moves : ReflTransGen Move moment next) :
    ReflTransGen Session.Step moment.session next.session := by
  induction moves with
  | refl => exact .refl
  | tail _ move ih => exact ih.trans move.steps

/-! ### Computations -/

/-- From a moment, moves lead to what has come of a computation. If it has ended, its value tells
the frames; if not, it is code that has halted. -/
def Moment.LeadsTo (moment : Moment σ ε κ) :
    (outcome : Option α × Session σ ε κ) → (after : α → List (Frame κ)) → Prop
  | (some value, later), after => ReflTransGen Move moment ⟨after value, later⟩
  | (none, later), _ => ∃ halted, InControl halted ∧ ReflTransGen Move moment ⟨halted, later⟩

theorem Moment.LeadsTo.of_moves {moment middle : Moment σ ε κ} {after : α → List (Frame κ)}
    {outcome : Option α × Session σ ε κ} (moves : ReflTransGen Move moment middle)
    (leads : middle.LeadsTo outcome after) : moment.LeadsTo outcome after := by
  rcases outcome with ⟨_ | value, later⟩
  · obtain ⟨halted, control, rest⟩ := leads
    exact ⟨halted, control, moves.trans rest⟩
  · exact moves.trans leads

theorem Moment.LeadsTo.of_move {moment middle : Moment σ ε κ} {after : α → List (Frame κ)}
    {outcome : Option α × Session σ ε κ} (move : Move moment middle)
    (leads : middle.LeadsTo outcome after) : moment.LeadsTo outcome after :=
  leads.of_moves (.single move)

theorem Moment.LeadsTo.controlled {moment : Moment σ ε κ} {after : α → List (Frame κ)}
    {outcome : Option α × Session σ ε κ} (leads : moment.LeadsTo outcome after)
    (control : ∀ value, InControl (after value)) :
    ∃ frames, InControl frames ∧ ReflTransGen Move moment ⟨frames, outcome.2⟩ := by
  rcases outcome with ⟨_ | value, later⟩
  · exact leads
  · exact ⟨after value, control value, leads⟩

namespace Run

/-- A computation that takes these frames to others by moves, in every session. -/
def Moves (frames : List (Frame κ)) (run : Run σ ε κ α) (after : α → List (Frame κ)) : Prop :=
  ∀ session, Moment.LeadsTo ⟨frames, session⟩ (on run session) after

variable {frames : List (Frame κ)}

theorem moves_pure {value : α} {after : α → List (Frame κ)} (same : frames = after value) :
    Moves frames (pure value : Run σ ε κ α) after := by
  intro session
  rw [same]
  exact .refl

theorem moves_diverge (control : InControl frames) {after : α → List (Frame κ)} :
    Moves frames (diverge : Run σ ε κ α) after :=
  fun _ => ⟨frames, control, .refl⟩

theorem leadsTo_bind {moment : Moment σ ε κ} {run : Run σ ε κ α} {next : α → Run σ ε κ β}
    {middle : α → List (Frame κ)} {after : β → List (Frame κ)} {session : Session σ ε κ}
    (first : moment.LeadsTo (on run session) middle)
    (others : ∀ value, Moves (middle value) (next value) after) :
    moment.LeadsTo (on (run >>= next) session) after := by
  rw [on_bind]
  generalize on run session = outcome at first
  rcases outcome with ⟨_ | value, later⟩
  · exact first
  · exact (others value later).of_moves first

theorem Moves.bind {run : Run σ ε κ α} {next : α → Run σ ε κ β}
    {middle : α → List (Frame κ)} {after : β → List (Frame κ)} (first : Moves frames run middle)
    (others : ∀ value, Moves (middle value) (next value) after) :
    Moves frames (run >>= next) after :=
  fun session => leadsTo_bind (first session) others

theorem moves_bus : Moves frames (bus : Run σ ε κ (Bus κ)) fun _ => frames :=
  fun _ => .refl

theorem moves_get : Moves frames (get : Run σ ε κ (Session σ ε κ)) fun _ => frames :=
  fun _ => .refl

/-- Code in control may operate. -/
theorem Operates.moves {run : Run σ ε κ α} (operates : Operates run) (control : InControl frames) :
    Moves frames run fun _ => frames := by
  intro session
  have moves : ReflTransGen Move ⟨frames, session⟩ ⟨frames, (on run session).2⟩ :=
    ReflTransGen.lift (fun session => (⟨frames, session⟩ : Moment σ ε κ))
      (fun _ _ operation => Move.operate control operation) _ _ (operates session)
  generalize on run session = outcome at moves
  rcases outcome with ⟨_ | value, later⟩
  · exact ⟨frames, control, moves⟩
  · exact moves

theorem moves_withHandle {action : Run σ ε κ α} (inner : Moves frames action fun _ => frames) :
    Moves frames (withHandle action) fun _ => frames := by
  unfold withHandle
  refine moves_bus.bind fun bus => ?_
  split
  · exact inner.bind fun value => moves_pure rfl
  · exact moves_pure rfl

/-! ### Scripts -/

/-- A computation of a handler that leaves the frames, whatever its event. -/
def MovesWith (frames : List (Frame κ)) (run : StateT ε (Run σ ε κ) α) : Prop :=
  ∀ event, Moves frames (run.run event) fun _ => frames

theorem MovesWith.bind {run : StateT ε (Run σ ε κ) α} {next : α → StateT ε (Run σ ε κ) β}
    (first : MovesWith frames run) (others : ∀ value, MovesWith frames (next value)) :
    MovesWith frames (run >>= next) := by
  intro event
  rw [StateT.run_bind]
  exact (first event).bind fun result => others result.1 result.2

theorem moves_script {R : Type} {Answer : R → Type}
    {perform : (request : R) → Run σ ε κ (Answer request)}
    (each : ∀ request, Moves frames (perform request) fun _ => frames)
    (script : Script R Answer α) : Moves frames (script.run perform) fun _ => frames := by
  induction script with
  | done value => exact moves_pure rfl
  | panic payload => exact moves_pure rfl
  | ask request next ih => exact (each request).bind ih

theorem movesWith_script {R : Type} {Answer : R → Type}
    {perform : (request : R) → StateT ε (Run σ ε κ) (Answer request)}
    (each : ∀ request, MovesWith frames (perform request)) (script : Script R Answer α) :
    MovesWith frames (script.run perform) := by
  induction script with
  | done value => exact fun _ => moves_pure rfl
  | panic payload => exact fun _ => moves_pure rfl
  | ask request next ih => exact (each request).bind ih

end Run

/-! ### Dispatch -/

namespace Dispatch

open Run

variable {nested : ε → Run σ ε κ (ε × Outcome κ)} {frames : List (Frame κ)}

/-- What code may use to dispatch: it returns to the frames that it found. -/
def Returns (nested : ε → Run σ ε κ (ε × Outcome κ)) : Prop :=
  ∀ {frames : List (Frame κ)}, InControl frames →
    ∀ event, Moves frames (nested event) fun _ => frames

theorem moves_perform (inner : Returns nested) (control : InControl frames)
    (request : Request σ ε κ) : Moves frames (perform nested request) fun _ => frames := by
  cases request with
  | memory => exact moves_get.bind fun session => moves_pure rfl
  | remember memory =>
    exact fun session => .single (.operate control (.remember session memory))
  | subscribe subscriber => exact moves_withHandle ((operates_subscribe subscriber).moves control)
  | subscribeTo eventType subscriber =>
    exact moves_withHandle ((operates_subscribeTo eventType subscriber).moves control)
  | revoke subscription => exact (operates_revoke subscription).moves control
  | isActive subscription => exact moves_bus.bind fun bus => moves_pure rfl
  | unsubscribeIf selector order =>
    exact moves_withHandle ((operates_unsubscribeIf selector order).moves control)
  | dispatch event => exact moves_withHandle (inner control event)
  | isSubscribed eventType =>
    exact moves_withHandle (moves_bus.bind fun bus => moves_pure rfl)
  | subscriberCount eventType =>
    exact moves_withHandle (moves_bus.bind fun bus => moves_pure rfl)
  | retain => exact operates_retain.moves control
  | release => exact operates_release.moves control
  | halt => exact moves_diverge control

theorem run_redispatch (event : ε) :
    (performForHandler nested .redispatch).run event =
      Run.withHandle (nested event) >>= fun answer =>
        match answer with
        | some (dispatched, _) => pure (answer, dispatched)
        | none => pure (answer, event) := by
  simp only [performForHandler, StateT.run_bind, StateT.run_get, pure_bind]
  rw [StateT.run_monadLift]
  simp only [bind_assoc, pure_bind, monadLift_self]
  congr 1
  funext answer
  cases answer <;> rfl

theorem movesWith_performForHandler (inner : Returns nested) (control : InControl frames)
    (request : HandlerRequest σ ε κ) : MovesWith frames (performForHandler nested request) := by
  intro event
  cases request with
  | plain request =>
    exact (moves_perform inner control request).bind fun answer => moves_pure rfl
  | amend change => exact moves_pure rfl
  | redispatch =>
    rw [run_redispatch]
    refine (moves_withHandle (inner control event)).bind fun answer => ?_
    cases answer with
    | none => exact moves_pure rfl
    | some result => exact moves_pure rfl

variable (program : Program σ ε κ) {eventType : EventType} {rest : List (Registration κ)}

/-- Where a turn stands after a predicate. -/
def stageOfAnswer (registration : Registration κ) : Except Payload Bool → Stage κ
  | .ok _ => .asked registration
  | .error payload => .finished ⟨registration, .failed (.panicked payload)⟩

/-- Where a turn stands after all predicates. -/
def stageOfAdmission (registration : Registration κ) : Except Payload Admission → Stage κ
  | .ok .admitted => .asked registration
  | .ok .filtered => .finished ⟨registration, .filtered⟩
  | .ok .expired => .finished ⟨registration, .expired⟩
  | .error payload => .finished ⟨registration, .failed (.panicked payload)⟩

theorem moves_ask (inner : Returns nested) (registration : Registration κ) (check : Check)
    (test : κ) (event : ε) :
    Moves (⟨eventType, .asked registration, rest⟩ :: frames)
      (ask program nested registration check test event)
      fun answer => ⟨eventType, stageOfAnswer registration answer, rest⟩ :: frames := by
  have control : InControl (⟨eventType, .asking registration, rest⟩ :: frames) :=
    inControl_cons.mpr rfl
  have script := moves_script (moves_perform inner control) (program.test test event)
  intro session
  refine .of_move .ask (leadsTo_bind (script session) fun answer later => ?_)
  cases answer with
  | ok holds => exact .of_move (.answer check event holds) .refl
  | error payload => exact .of_move (.panic check event payload) .refl

theorem moves_askFilters (inner : Returns nested) (registration : Registration κ) (event : ε)
    (index : Nat) (filters : List κ) :
    Moves (⟨eventType, .asked registration, rest⟩ :: frames)
      (askFilters program nested registration event index filters)
      fun answer => ⟨eventType, stageOfAnswer registration answer, rest⟩ :: frames := by
  induction filters generalizing index with
  | nil => exact moves_pure rfl
  | cons filter others ih =>
    refine (moves_ask program inner registration _ filter event).bind fun answer => ?_
    rcases answer with payload | _ | _
    · exact moves_pure rfl
    · exact moves_pure rfl
    · exact ih (index + 1)

theorem moves_askExpiry (inner : Returns nested) (registration : Registration κ) (event : ε) :
    Moves (⟨eventType, .asked registration, rest⟩ :: frames)
      (askExpiry program nested registration event)
      fun answer => ⟨eventType, stageOfAdmission registration answer, rest⟩ :: frames := by
  unfold askExpiry
  cases registration.subscriber.expireWhen with
  | none => exact moves_pure rfl
  | some test =>
    refine (moves_ask program inner registration _ test event).bind fun answer => ?_
    rcases answer with payload | _ | _
    · exact moves_pure rfl
    · exact moves_pure rfl
    · intro session
      have revoked : ∃ answer, on (Run.revoke registration.subscription) session =
          (some answer, (on (Run.revoke registration.subscription) session).2) := by
        rw [on_revoke]
        cases session.bus.revoke? registration.subscription <;> exact ⟨_, rfl⟩
      obtain ⟨answer, ended⟩ := revoked
      dsimp only
      rw [on_bind, ended]
      exact .single .expire

theorem moves_admission (inner : Returns nested) (registration : Registration κ) (event : ε) :
    Moves (⟨eventType, .asked registration, rest⟩ :: frames)
      (admission program nested registration event)
      fun answer => ⟨eventType, stageOfAdmission registration answer, rest⟩ :: frames := by
  refine (moves_askFilters program inner registration event _ _).bind fun answer => ?_
  rcases answer with payload | _ | _
  · exact moves_pure rfl
  · exact fun _ => .single .refuse
  · exact moves_askExpiry program inner registration event

theorem moves_handle (inner : Returns nested) (registration : Registration κ) (event : ε) :
    Moves (⟨eventType, .asked registration, rest⟩ :: frames)
      (handle program nested registration event)
      fun _ => ⟨eventType, .handling registration, rest⟩ :: frames := by
  have control : InControl (⟨eventType, .handling registration, rest⟩ :: frames) :=
    inControl_cons.mpr rfl
  have script := movesWith_script (movesWith_performForHandler inner control)
    (program.handle registration.subscriber.handler registration.subscription event)
  have started : Moves (⟨eventType, .asked registration, rest⟩ :: frames)
      (note (.handling registration event) : Run σ ε κ Unit)
      fun _ => ⟨eventType, .handling registration, rest⟩ :: frames :=
    fun _ => .single (.start event)
  exact started.bind fun _ => script event

theorem moves_countInvocation (registration : Registration κ) :
    Moves (⟨eventType, .handling registration, rest⟩ :: frames)
      (countInvocation registration : Run σ ε κ Unit)
      fun _ => ⟨eventType, .finished ⟨registration, .invoked⟩, rest⟩ :: frames := by
  intro session
  have ended : on (countInvocation registration) session =
      (some (), (on (countInvocation registration) session).2) := by
    rw [on_countInvocation]
    split <;> rfl
  rw [ended]
  exact .single .count

theorem moves_deliver (inner : Returns nested) (registration : Registration κ) (event : ε) :
    Moves (⟨eventType, .asked registration, rest⟩ :: frames)
      (deliver program nested registration event)
      fun result => ⟨eventType, .finished ⟨registration, result.1⟩, rest⟩ :: frames := by
  refine (moves_admission program inner registration event).bind fun answer => ?_
  rcases answer with payload | _ | _ | _
  · exact moves_pure rfl
  · refine (moves_handle program inner registration event).bind fun result => ?_
    rcases result with ⟨payload | report | _, event⟩
    · exact fun _ => .single (.fail (.panicked payload))
    · exact fun _ => .single (.fail (.returned report))
    · exact (moves_countInvocation registration).bind fun _ => moves_pure rfl
  · exact moves_pure rfl
  · exact moves_pure rfl

theorem moves_setRunning_leave :
    Moves (⟨eventType, .between, []⟩ :: frames) (setRunning (· - 1) : Run σ ε κ Unit)
      fun _ => frames :=
  fun _ => .single .leave

variable [Event ε]

theorem moves_offer (inner : Returns nested) (registration : Registration κ) (event : ε) :
    Moves (⟨eventType, .between, registration :: rest⟩ :: frames)
      (offer program nested registration event)
      fun result => ⟨eventType, .finished ⟨registration, result.1⟩, rest⟩ :: frames := by
  intro session
  unfold offer
  rw [on_bind, on_bus]
  dsimp only
  cases live : (session.bus.standing registration.id).live with
  | false =>
    refine .single (.decline ?_)
    rw [live]
    rfl
  | true =>
    rw [Bool.not_true, if_neg Bool.false_ne_true]
    split
    · refine .single (.decline ?_)
      rw [live]
      rfl
    · exact .of_move (.accept live) (moves_deliver program inner registration event session)

theorem moves_turn (inner : Returns nested) (registration : Registration κ) (event : ε) :
    Moves (⟨eventType, .between, registration :: rest⟩ :: frames)
      (turn program nested eventType registration event)
      fun _ => ⟨eventType, .between, rest⟩ :: frames := by
  refine (moves_offer program inner registration event).bind fun result => ?_
  exact fun _ => .single .settle

theorem moves_turns (inner : Returns nested) (receivers : List (Registration κ)) (event : ε) :
    Moves (⟨eventType, .between, receivers⟩ :: frames)
      (turns program nested eventType receivers event)
      fun _ => ⟨eventType, .between, []⟩ :: frames := by
  induction receivers generalizing event with
  | nil => exact moves_pure rfl
  | cons registration rest ih =>
    refine (moves_turn program inner registration event).bind fun first => ?_
    exact (ih first.2).bind fun others => moves_pure rfl

theorem moves_dispatchWith (inner : Returns nested) (control : InControl frames) (event : ε) :
    Moves frames (dispatchWith program nested event) fun _ => frames := by
  intro session
  unfold dispatchWith
  rw [on_bind, on_receivers]
  refine .of_move (.operate control (.collect session (Event.eventType event))) ?_
  dsimp only
  split
  · exact .refl
  · rename_i occupied
    have known := Bus.cache_receivers fun empty => occupied (List.isEmpty_iff.mpr empty)
    rw [on_bind, on_setRunning]
    dsimp only
    rw [on_bind, on_note]
    refine .of_move (.enter control known fun empty => occupied (List.isEmpty_iff.mpr empty)) ?_
    refine leadsTo_bind (moves_turns program inner _ event _) fun result => ?_
    exact moves_setRunning_leave.bind fun _ => moves_pure rfl

theorem returns_dispatch (depth : Nat) : Returns (dispatch program depth) := by
  induction depth with
  | zero => exact fun control _ => moves_diverge control
  | succ depth ih => exact fun control event => moves_dispatchWith program ih control event

/-- A dispatch, also one that does not end, comes about by moves and leaves code in control. -/
theorem controlled_dispatch (depth : Nat) (control : InControl frames) (event : ε)
    (session : Session σ ε κ) :
    ∃ halted, InControl halted ∧ ReflTransGen Move ⟨frames, session⟩
      ⟨halted, (on (dispatch program depth event) session).2⟩ :=
  (returns_dispatch program depth control event session).controlled fun _ => control

end Dispatch

namespace Session

/-- Every session in which a run can be found comes about by moves, and code is in control there. -/
theorem Reached.controlled [Event ε] {hierarchy : Hierarchy} {memory : σ}
    {session : Session σ ε κ} (reached : Reached hierarchy memory session) :
    ∃ frames, InControl frames ∧
      ReflTransGen Move ⟨[], start hierarchy memory⟩ ⟨frames, session⟩ := by
  obtain ⟨program, depth, script, rfl⟩ := reached
  have each := Dispatch.moves_perform (Dispatch.returns_dispatch program depth) inControl_nil
  have leads : Moment.LeadsTo ⟨[], start hierarchy memory⟩
      (play program depth hierarchy memory script) fun _ => [] :=
    Run.moves_script each script (start hierarchy memory)
  exact leads.controlled fun _ => inControl_nil

theorem Reached.moves [Event ε] {hierarchy : Hierarchy} {memory : σ} {session : Session σ ε κ}
    (reached : Reached hierarchy memory session) :
    ∃ frames, ReflTransGen Move ⟨[], start hierarchy memory⟩ ⟨frames, session⟩ := by
  obtain ⟨frames, -, moves⟩ := reached.controlled
  exact ⟨frames, moves⟩

theorem Reached.steps [Event ε] {hierarchy : Hierarchy} {memory : σ} {session : Session σ ε κ}
    (reached : Reached hierarchy memory session) :
    ReflTransGen Step (start hierarchy memory) session := by
  obtain ⟨frames, moves⟩ := reached.moves
  exact steps_of_moves moves

end Session

end ExtensionHost
