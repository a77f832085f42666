/-
**The bus does what one list of registrations would do.**

* `Session.Agrees`: a session and one with a roster, with matching registrations, the same memory,
  and the same journal but for what the roster has no word for.
* `Follows`: a computation and one on a roster that have the same result, and after which the
  sessions still agree, unless a predicate on registrations panics.
* `follows_perform`, `follows_offer`, `follows_dispatch` and their like: all parts of a dispatch
  follow the rules on the roster, whatever the code of handlers and predicates.
* `refines_roster`: so do all runs.
-/

import ExtensionHost.Proofs.Bus.Matching

namespace ExtensionHost

variable {σ ε κ α β : Type}

/-- Whether an entry tells of something that happens on a roster too. There, no receivers are
computed ahead, and a registration that is taken away by a predicate is not named. -/
def Activity.isShared : Activity ε κ → Bool
  | removed _ | collected _ _ _ => false
  | _ => true

/-- The entries that have a place in the journal of a roster, in order. -/
def Session.shared (session : Session σ ε κ) : List (Entry ε κ) :=
  session.journal.filter (·.activity.isShared)

/-- The sessions stand at the same point. -/
structure Session.Agrees (session : Session σ ε κ) (plain : Roster.Session σ ε κ) : Prop where
  registrations : session.bus.Matches plain.roster
  memory : plain.memory = session.memory
  journal : plain.journal = session.shared

/-- The computations go side by side. -/
structure Follows (run : Run σ ε κ α) (plain : Roster.Run σ ε κ α) : Prop where
  advances : run.Advances
  agrees : ∀ {session plainSession}, session.Agrees plainSession →
    (run.on session).2.Undisturbed →
      (plain.on plainSession).1 = (run.on session).1 ∧
        (run.on session).2.Agrees (plain.on plainSession).2

/-! ### Plain computations -/

theorem follows_pure (value : α) :
    Follows (pure value : Run σ ε κ α) (pure value) where
  advances := Run.advances_pure value
  agrees same _ := ⟨rfl, same⟩

theorem follows_fail : Follows (Run.diverge : Run σ ε κ α) OptionT.fail where
  advances := Run.advances_diverge
  agrees same _ := ⟨rfl, same⟩

theorem Roster.Run.on_bind (run : Roster.Run σ ε κ α) (next : α → Roster.Run σ ε κ β)
    (session : Roster.Session σ ε κ) :
    on (run >>= next) session =
      match on run session with
      | (some value, later) => on (next value) later
      | (none, later) => (none, later) := by
  unfold on
  rw [OptionT.run_bind]
  simp only [Option.elimM, StateT.run_bind]
  rcases StateT.run (OptionT.run run) session with ⟨_ | value, later⟩ <;> rfl

theorem Follows.bind {run : Run σ ε κ α} {plain : Roster.Run σ ε κ α}
    {next : α → Run σ ε κ β} {plainNext : α → Roster.Run σ ε κ β}
    (first : Follows run plain) (others : ∀ value, Follows (next value) (plainNext value)) :
    Follows (run >>= next) (plain >>= plainNext) where
  advances := first.advances.bind fun value => (others value).advances
  agrees {session plainSession} same undisturbed := by
    have goes := @first.agrees session plainSession same
    rw [Run.on_bind] at undisturbed ⊢
    rw [Roster.Run.on_bind]
    generalize Run.on run session = outcome at goes undisturbed ⊢
    generalize Roster.Run.on plain plainSession = plainOutcome at goes ⊢
    obtain ⟨result, middle⟩ := outcome
    obtain ⟨plainResult, plainMiddle⟩ := plainOutcome
    cases result with
    | none =>
      obtain ⟨rfl, still⟩ := goes undisturbed
      exact ⟨rfl, still⟩
    | some value =>
      -- what is undisturbed in the end was so in between
      obtain ⟨rfl, still⟩ := goes (undisturbed.before ((others value).advances middle))
      exact (others value).agrees still undisturbed

/-- An operation of the bus has come to what an operation on the roster comes to: it has the same
answer, it has left a bus that matches, and it has put the same on record. -/
def Session.Mirrors (session : Session σ ε κ) (outcome : Option α × Session σ ε κ)
    (effect : Roster.Effect ε κ α) : Prop :=
  ∃ later activities,
    outcome = (some effect.answer, Session.record { session with bus := later } activities) ∧
    later.Matches effect.roster ∧ activities.filter Activity.isShared = effect.activities

/-- Nothing was put on record. -/
theorem Session.mirrors_silent {session : Session σ ε κ} {answer : α} {later : Bus κ}
    {roster : Roster κ} (matching : later.Matches roster) :
    session.Mirrors (some answer, { session with bus := later }) { answer, roster } :=
  ⟨later, [], by rw [record_nil], matching, rfl⟩

/-- One shared entry was put on record. -/
theorem Session.mirrors_record {session : Session σ ε κ} {answer : α} {later : Bus κ}
    {roster : Roster κ} {activity : Activity ε κ} (shared : activity.isShared = true)
    (matching : later.Matches roster) :
    session.Mirrors (some answer, Session.record { session with bus := later } [activity])
      { answer, roster, activities := [activity] } :=
  ⟨later, [activity], rfl, matching, List.filter_cons_of_pos shared⟩

theorem follows_act {run : Run σ ε κ α} {operation : Roster κ → Roster.Effect ε κ α}
    (advances : run.Advances)
    (same : ∀ {session roster}, session.bus.Matches roster → (run.on session).2.Undisturbed →
      session.Mirrors (run.on session) (operation roster)) :
    Follows run (Roster.act operation) where
  advances := advances
  agrees {session plainSession} agrees undisturbed := by
    obtain ⟨later, activities, outcome, matching, shared⟩ := same agrees.registrations undisturbed
    rw [outcome]
    refine ⟨rfl, matching, agrees.memory, ?_⟩
    show plainSession.journal ++ List.map _ _ = List.filter _ (session.journal ++ List.map _ _)
    rw [List.filter_append, List.filter_map, agrees.journal, ← shared, matching.running]
    rfl

theorem follows_answering {next : Bus κ → α} {question : Roster κ → α}
    (same : ∀ {bus : Bus κ} {roster : Roster κ}, bus.Matches roster →
      question roster = next bus) :
    Follows (Run.bus >>= fun bus => (pure (next bus) : Run σ ε κ α))
      (Roster.answering question) := by
  refine follows_act (Run.advances_bus.bind fun _ => Run.advances_pure _) ?_
  intro session roster matching _
  rw [same matching]
  exact Session.mirrors_silent matching

theorem follows_note (activity : Activity ε κ) (plain : activity.isChange = false)
    (shared : activity.isShared = true) :
    Follows (Run.note activity : Run σ ε κ Unit) (Roster.note activity) := by
  refine follows_act (Run.advances_note activity plain) fun {session _} matching _ => ?_
  exact Session.mirrors_record shared matching

/-- Both read an answer, and go on with it. -/
theorem follows_reading (observe : Bus κ → β) (question : Roster κ → β)
    (same : ∀ {bus : Bus κ} {roster : Roster κ}, bus.Matches roster →
      question roster = observe bus)
    (next : β → Run σ ε κ α) {plainNext : β → Roster.Run σ ε κ α}
    (each : ∀ value, Follows (next value) (plainNext value)) :
    Follows (Run.bus >>= fun bus => next (observe bus))
      (Roster.answering question >>= plainNext) := by
  have both := (@follows_answering σ ε κ β observe question same).bind each
  rw [bind_assoc] at both
  simpa only [pure_bind] using both

/-! ### Operations of the bus -/

theorem follows_withHandle {action : Run σ ε κ α} {plain : Roster.Run σ ε κ α}
    (inner : Follows action plain) :
    Follows (Run.withHandle action) (Roster.withHandle plain) := by
  refine follows_reading Bus.handles Roster.handles (fun matching => matching.handles)
    (fun handles => if 0 < handles then action >>= fun value => pure (some value) else pure none)
    fun handles => ?_
  split
  · exact inner.bind fun value => follows_pure _
  · exact follows_pure _

theorem follows_subscribeTo (eventType : EventType) (subscriber : Subscriber κ) :
    Follows (Run.subscribeTo eventType subscriber : Run σ ε κ _)
      (Roster.act (Roster.subscribeTo eventType subscriber)) := by
  refine follows_act (Run.operates_subscribeTo eventType subscriber).advances ?_
  intro session roster matching _
  rw [Run.on_subscribeTo, Run.on_enrol]
  unfold Roster.subscribeTo
  rcases session.bus.subscribeTo_cases eventType subscriber with
    ⟨later, accepted⟩ | ⟨undeclared, refused⟩
  · obtain ⟨-, gains⟩ := Bus.gains_of_subscribeTo accepted
    have declared : roster.hierarchy.contains eventType = true := by
      rw [matching.hierarchy]
      exact gains.declared
    have same : ({ id := roster.nextId, eventType, subscriber } : Registration κ) =
        session.bus.newcomer eventType subscriber := by
      rw [matching.nextId]
      rfl
    rw [accepted, if_pos declared]
    dsimp only
    rw [same]
    exact Session.mirrors_record rfl (matching.of_gains gains)
  · rw [← matching.hierarchy] at undeclared
    rw [refused, if_neg (Bool.eq_false_iff.mp undeclared)]
    exact Session.mirrors_silent matching

theorem follows_subscribe (subscriber : Subscriber κ) :
    Follows (Run.subscribe subscriber : Run σ ε κ _)
      (Roster.act (Roster.subscribe subscriber)) := by
  unfold Run.subscribe Roster.subscribe Bus.subscribe
  cases subscriber.eventType with
  | some eventType => exact follows_subscribeTo eventType subscriber
  | none =>
    exact @follows_answering σ ε κ (Except ConfigurationError Subscription)
      (fun _ => .error (.missingEventType subscriber.name))
      (fun _ => .error (.missingEventType subscriber.name)) fun _ => rfl

theorem follows_revoke (subscription : Subscription) :
    Follows (Run.revoke subscription : Run σ ε κ Bool)
      (Roster.act (Roster.revoke subscription)) := by
  refine follows_act (Run.operates_revoke subscription).advances ?_
  intro session roster matching _
  rw [Run.on_revoke]
  cases found : session.bus.revoke? subscription with
  | none =>
    rw [matching.revoke_of_none found]
    exact Session.mirrors_silent matching
  | some result =>
    obtain ⟨left, matches_left, same⟩ := matching.revoke_of_some found
    rw [same]
    exact Session.mirrors_record rfl matches_left

theorem shared_ofSweep {sweep : Bus.Sweep κ} (calm : sweep.panic = none) :
    (Activity.ofSweep sweep : List (Activity ε κ)).filter Activity.isShared =
      if sweep.removed.length = 0 then [] else [.swept sweep.removed.length] := by
  have unnamed : (sweep.removed.map Activity.removed : List (Activity ε κ)).filter
      Activity.isShared = [] := by
    rw [List.filter_map, List.map_eq_nil_iff]
    exact List.filter_eq_nil_iff.mpr fun _ _ => Bool.false_ne_true
  unfold Activity.ofSweep
  rw [calm, List.filter_append, unnamed]
  cases sweep.removed <;> rfl

theorem follows_unsubscribeIf (selector : Bus.Selector κ) (order : Bus.SetOrder) :
    Follows (Run.unsubscribeIf selector order : Run σ ε κ _)
      (Roster.act (Roster.unsubscribeIf selector)) := by
  refine follows_act (Run.operates_unsubscribeIf selector order).advances ?_
  intro session roster matching undisturbed
  rw [Run.on_unsubscribeIf] at undisturbed ⊢
  have calm := Session.panic_eq_none_of_undisturbed undisturbed
  have count := matching.length_removed calm
  refine ⟨(session.bus.sweep selector order).bus,
    Activity.ofSweep (session.bus.sweep selector order), ?_⟩
  unfold Roster.unsubscribeIf
  rw [matching.panic?_eq_none calm]
  dsimp only
  rw [← count]
  refine ⟨?_, matching.keep_matched calm, ?_⟩
  · unfold Bus.Sweep.answer
    rw [calm]
  · exact shared_ofSweep calm

theorem follows_receivers (eventType : EventType) :
    Follows (Run.receivers eventType : Run σ ε κ _)
      (Roster.answering (·.receivers eventType)) := by
  refine follows_act (Run.operates_receivers eventType).advances ?_
  intro session roster matching _
  rw [Run.on_receivers]
  refine ⟨(session.bus.receivers eventType).bus, Run.collecting session.bus eventType, ?_, ?_, ?_⟩
  · rw [← matching.receivers_eq]
  · exact matching.receivers eventType
  · unfold Run.collecting
    split <;> rfl

theorem follows_retain : Follows (Run.retain : Run σ ε κ Bool) (Roster.act Roster.retain) := by
  refine follows_act Run.operates_retain.advances ?_
  intro session roster matching _
  rw [Run.on_retain]
  unfold Roster.retain
  rw [matching.handles]
  split
  · exact Session.mirrors_silent (matching.withHandles (session.bus.handles + 1))
  · exact Session.mirrors_silent matching

theorem follows_release : Follows (Run.release : Run σ ε κ Bool) (Roster.act Roster.release) := by
  refine follows_act Run.operates_release.advances ?_
  intro session roster matching _
  rw [Run.on_release]
  unfold Roster.release
  rw [matching.handles]
  split
  · exact Session.mirrors_silent (matching.withHandles (session.bus.handles - 1))
  · exact Session.mirrors_silent matching

theorem follows_setRunning (change : Nat → Nat) :
    Follows (Dispatch.setRunning change : Run σ ε κ Unit)
      (Roster.act (Roster.setRunning change)) := by
  refine follows_act (Dispatch.advances_setRunning change) ?_
  intro session roster matching _
  rw [Dispatch.on_setRunning]
  unfold Roster.setRunning
  rw [matching.running]
  exact Session.mirrors_silent (matching.withRunning (change session.bus.running))

theorem follows_countInvocation (registration : Registration κ) :
    Follows (Dispatch.countInvocation registration : Run σ ε κ Unit)
      (Roster.act (Roster.countInvocation registration)) := by
  refine follows_act (Dispatch.advances_countInvocation registration) ?_
  intro session roster matching _
  have counted := matching.counted registration.id
  rw [Dispatch.on_countInvocation]
  unfold Roster.countInvocation
  by_cases last : (session.bus.standing registration.id).remaining = some 1
  · rw [if_pos last, Run.on_revoke]
    dsimp only
    cases found : (session.bus.countInvocation registration.id).revoke?
        registration.subscription with
    | none =>
      -- a registration that has ended meanwhile is not there to be revoked
      rw [counted.revoke_of_none found, ite_self]
      exact Session.mirrors_silent counted
    | some result =>
      obtain ⟨present, -⟩ := Bus.revoke?_eq_some found
      obtain ⟨member, same⟩ := Bus.mem_of_find? present
      have live := (matching.coherent.live_iff registration.id).mpr ⟨_, result.1, member, same⟩
      rw [← matching.isPresent_eq] at live
      obtain ⟨left, matches_left, revoked⟩ := counted.revoke_of_some found
      rw [if_pos (matching.last_iff.mpr ⟨live, last⟩), revoked]
      exact Session.mirrors_record rfl matches_left
  · rw [if_neg last, if_neg fun plain => last (matching.last_iff.mp plain).2]
    exact Session.mirrors_silent counted

/-! ### Scripts -/

/-- The computations of a handler go side by side, whatever its event. -/
def FollowsWith (run : StateT ε (Run σ ε κ) α) (plain : StateT ε (Roster.Run σ ε κ) α) : Prop :=
  ∀ event, Follows (run.run event) (plain.run event)

theorem FollowsWith.bind {run : StateT ε (Run σ ε κ) α} {plain : StateT ε (Roster.Run σ ε κ) α}
    {next : α → StateT ε (Run σ ε κ) β} {plainNext : α → StateT ε (Roster.Run σ ε κ) β}
    (first : FollowsWith run plain)
    (others : ∀ value, FollowsWith (next value) (plainNext value)) :
    FollowsWith (run >>= next) (plain >>= plainNext) := by
  intro event
  rw [StateT.run_bind, StateT.run_bind]
  exact (first event).bind fun result => others result.1 result.2

theorem follows_script {R : Type} {Answer : R → Type}
    {perform : (request : R) → Run σ ε κ (Answer request)}
    {plain : (request : R) → Roster.Run σ ε κ (Answer request)}
    (each : ∀ request, Follows (perform request) (plain request)) (script : Script R Answer α) :
    Follows (script.run perform) (script.run plain) := by
  induction script with
  | done value => exact follows_pure _
  | panic payload => exact follows_pure _
  | ask request next ih => exact (each request).bind ih

theorem followsWith_script {R : Type} {Answer : R → Type}
    {perform : (request : R) → StateT ε (Run σ ε κ) (Answer request)}
    {plain : (request : R) → StateT ε (Roster.Run σ ε κ) (Answer request)}
    (each : ∀ request, FollowsWith (perform request) (plain request))
    (script : Script R Answer α) : FollowsWith (script.run perform) (script.run plain) := by
  induction script with
  | done value => exact fun _ => follows_pure _
  | panic payload => exact fun _ => follows_pure _
  | ask request next ih => exact (each request).bind ih

/-! ### Requests -/

section Dispatch

variable {nested : ε → Run σ ε κ (ε × Outcome κ)} {plain : ε → Roster.Run σ ε κ (ε × Outcome κ)}

theorem follows_memory : Follows (Dispatch.perform nested .memory)
    (Roster.perform plain .memory) where
  advances := Run.advances_get.bind fun _ => Run.advances_pure _
  agrees same _ := ⟨congrArg some same.memory, same⟩

theorem follows_remember (memory : σ) : Follows (Dispatch.perform nested (.remember memory))
    (Roster.perform plain (.remember memory)) where
  advances session := .single (.remember session memory)
  agrees same _ := ⟨rfl, { same with memory := rfl }⟩

theorem follows_perform (inner : ∀ event, Follows (nested event) (plain event))
    (request : Request σ ε κ) :
    Follows (Dispatch.perform nested request) (Roster.perform plain request) := by
  cases request with
  | memory => exact follows_memory
  | remember memory => exact follows_remember memory
  | subscribe subscriber => exact follows_withHandle (follows_subscribe subscriber)
  | subscribeTo eventType subscriber =>
    exact follows_withHandle (follows_subscribeTo eventType subscriber)
  | revoke subscription => exact follows_revoke subscription
  | isActive subscription => exact follows_answering fun matching => matching.isActive_eq _
  | unsubscribeIf selector order =>
    exact follows_withHandle (follows_unsubscribeIf selector order)
  | dispatch event => exact follows_withHandle (inner event)
  | isSubscribed eventType =>
    exact follows_withHandle (follows_answering fun matching => matching.isSubscribed_eq eventType)
  | subscriberCount eventType =>
    exact follows_withHandle
      (follows_answering fun matching => matching.subscriberCount_eq eventType)
  | retain => exact follows_retain
  | release => exact follows_release
  | halt => exact follows_fail

theorem Roster.run_redispatch (event : ε) :
    (Roster.performForHandler plain .redispatch).run event =
      Roster.withHandle (plain event) >>= fun answer =>
        match answer with
        | some (dispatched, _) => pure (answer, dispatched)
        | none => pure (answer, event) := by
  simp only [Roster.performForHandler, StateT.run_bind, StateT.run_get, pure_bind]
  rw [StateT.run_monadLift]
  simp only [bind_assoc, pure_bind, monadLift_self]
  congr 1
  funext answer
  cases answer <;> rfl

theorem followsWith_performForHandler (inner : ∀ event, Follows (nested event) (plain event))
    (request : HandlerRequest σ ε κ) :
    FollowsWith (Dispatch.performForHandler nested request)
      (Roster.performForHandler plain request) := by
  intro event
  cases request with
  | plain request => exact (follows_perform inner request).bind fun _ => follows_pure _
  | amend change => exact follows_pure _
  | redispatch =>
    rw [Dispatch.run_redispatch, Roster.run_redispatch]
    refine (follows_withHandle (inner event)).bind fun answer => ?_
    cases answer <;> exact follows_pure _

/-! ### Dispatch -/

variable (program : Program σ ε κ)

theorem follows_ask (inner : ∀ event, Follows (nested event) (plain event))
    (registration : Registration κ) (check : Check) (test : κ) (event : ε) :
    Follows (Dispatch.ask program nested registration check test event)
      (Roster.ask program plain registration check test event) := by
  refine (follows_script (follows_perform inner) _).bind fun answer => ?_
  exact (follows_note _ rfl rfl).bind fun _ => follows_pure _

theorem follows_askFilters (inner : ∀ event, Follows (nested event) (plain event))
    (registration : Registration κ) (event : ε) (index : Nat) (filters : List κ) :
    Follows (Dispatch.askFilters program nested registration event index filters)
      (Roster.askFilters program plain registration event index filters) := by
  induction filters generalizing index with
  | nil => exact follows_pure _
  | cons filter rest ih =>
    refine (follows_ask program inner registration _ filter event).bind fun answer => ?_
    rcases answer with payload | _ | _
    · exact follows_pure _
    · exact follows_pure _
    · exact ih (index + 1)

/-- From the handler on, a delivery is an invocation. -/
theorem follows_invoke (inner : ∀ event, Follows (nested event) (plain event))
    (registration : Registration κ) (event : ε) :
    Follows (do
        let (result, event) ← Dispatch.handle program nested registration event
        match result with
        | .error payload => return (Verdict.failed (.panicked payload), event)
        | .ok (.error report) => return (.failed (.returned report), event)
        | .ok (.ok ()) =>
          Dispatch.countInvocation registration
          return (.invoked, event))
      (Roster.invoke program plain registration event) := by
  unfold Dispatch.handle Roster.invoke
  rw [bind_assoc]
  refine (follows_note _ rfl rfl).bind fun _ => ?_
  have script := followsWith_script (followsWith_performForHandler inner)
    (program.handle registration.subscriber.handler registration.subscription event)
  refine (script event).bind fun result => ?_
  rcases result with ⟨payload | report | _, event⟩
  · exact follows_pure _
  · exact follows_pure _
  · exact (follows_countInvocation registration).bind fun _ => follows_pure _

variable [Event ε]

theorem follows_offer (inner : ∀ event, Follows (nested event) (plain event))
    (registration : Registration κ) (event : ε) :
    Follows (Dispatch.offer program nested registration event)
      (Roster.offer program plain registration event) := by
  unfold Dispatch.offer Roster.offer
  refine follows_reading (fun bus => (bus.standing registration.id).live)
    (·.isPresent registration.id) (fun matching => matching.isPresent_eq registration.id)
    (fun live => if !live then pure (.gone, event)
      else if Event.isCancelled event && !registration.subscriber.acceptsCancelled then
        pure (.cancelled, event)
      else Dispatch.deliver program nested registration event) fun live => ?_
  split
  · exact follows_pure _
  split
  · exact follows_pure _
  -- what the bus does in `deliver`, `admission` and `askExpiry` is one chain on the roster
  unfold Dispatch.deliver Dispatch.admission
  rw [bind_assoc]
  refine (follows_askFilters program inner registration event _ _).bind fun answer => ?_
  rcases answer with payload | _ | _
  · exact follows_pure _
  · exact follows_pure _
  unfold Dispatch.askExpiry Roster.askExpiry
  cases registration.subscriber.expireWhen with
  | none => exact follows_invoke program inner registration event
  | some test =>
    dsimp only
    rw [bind_assoc]
    refine (follows_ask program inner registration .expiry test event).bind fun answer => ?_
    rcases answer with payload | _ | _
    · exact follows_pure _
    · exact follows_invoke program inner registration event
    · dsimp only
      rw [bind_assoc]
      exact (follows_revoke registration.subscription).bind fun _ => follows_pure _

theorem follows_turns (inner : ∀ event, Follows (nested event) (plain event))
    (eventType : EventType) (receivers : List (Registration κ)) (event : ε) :
    Follows (Dispatch.turns program nested eventType receivers event)
      (Roster.turns program plain eventType receivers event) := by
  induction receivers generalizing event with
  | nil => exact follows_pure _
  | cons registration rest ih =>
    unfold Dispatch.turns Dispatch.turn Roster.turns
    rw [bind_assoc]
    refine (follows_offer program inner registration event).bind fun offered => ?_
    dsimp only
    rw [bind_assoc]
    refine (follows_note _ rfl rfl).bind fun _ => ?_
    rw [pure_bind]
    exact (ih offered.2).bind fun _ => follows_pure _

theorem follows_dispatchWith (inner : ∀ event, Follows (nested event) (plain event))
    (event : ε) :
    Follows (Dispatch.dispatchWith program nested event)
      (Roster.dispatchWith program plain event) := by
  refine (follows_receivers _).bind fun receivers => ?_
  split
  · exact follows_pure _
  · refine (follows_setRunning _).bind fun _ => (follows_note _ rfl rfl).bind fun _ => ?_
    refine (follows_turns program inner _ receivers event).bind fun result => ?_
    exact (follows_setRunning _).bind fun _ => follows_pure _

theorem follows_dispatch (depth : Nat) (event : ε) :
    Follows (Dispatch.dispatch program depth event) (Roster.dispatch program depth event) := by
  induction depth generalizing event with
  | zero => exact follows_fail
  | succ depth ih => exact follows_dispatchWith program ih event

theorem follows_request (depth : Nat) (request : Request σ ε κ) :
    Follows (Dispatch.request program depth request) (Roster.request program depth request) :=
  follows_perform (follows_dispatch program depth) request

end Dispatch

/-! ### Runs -/

theorem agrees_start (hierarchy : Hierarchy) (memory : σ) :
    (Session.start hierarchy memory : Session σ ε κ).Agrees (.start hierarchy memory) where
  registrations := Bus.matches_start hierarchy
  memory := rfl
  journal := rfl

/-- What comes of a script that is run on an empty roster. -/
def Roster.Session.play [Event ε] (program : Program σ ε κ) (depth : Nat) (hierarchy : Hierarchy)
    (memory : σ) (script : Script (Request σ ε κ) Request.Answer α) :
    Option (Except Payload α) × Roster.Session σ ε κ :=
  Roster.Run.on (script.run (Roster.request program depth)) (start hierarchy memory)

/-- **As long as no predicate on registrations panics, no code can tell a bus from a roster.** A
script gets the same answers to all its requests on both, and so does all code that runs meanwhile:
the result is the same, the memory that all code shares, and the journal with every question to a
predicate, every call of a handler and every verdict, each with its event and in the same order. -/
theorem refines_roster [Event ε] (program : Program σ ε κ) (depth : Nat) (hierarchy : Hierarchy)
    (memory : σ) (script : Script (Request σ ε κ) Request.Answer α)
    (undisturbed : (Session.play program depth hierarchy memory script).2.Undisturbed) :
    let real := Session.play program depth hierarchy memory script
    let plain := Roster.Session.play program depth hierarchy memory script
    plain.1 = real.1 ∧ plain.2.memory = real.2.memory ∧ plain.2.journal = real.2.shared := by
  have follows := follows_script (follows_request program depth) script
  obtain ⟨same, agrees⟩ := follows.agrees (agrees_start hierarchy memory) undisturbed
  exact ⟨same, agrees.memory, agrees.journal⟩

/-! ### A run in which much happens at once -/

namespace Tangle

/-- Four types, one of them below two that have the same type above them. -/
def hierarchy : Hierarchy :=
  .ofDeclared ⟨[(⟨"base"⟩, []), (⟨"left"⟩, [⟨"base"⟩]), (⟨"right"⟩, [⟨"base"⟩]),
    (⟨"part"⟩, [⟨"left"⟩, ⟨"right"⟩])], by decide⟩

/-- What the code of the run does. -/
inductive Deed where
  /-- Nothing; as a predicate, it holds. -/
  | nothing
  /-- It revokes the first registration; as a predicate, it holds. -/
  | revokeFirst
  /-- It dispatches an event to the right. -/
  | dispatchRight

def program : Program Unit Signal Deed where
  test
    | .revokeFirst, _ => .ask (.revoke ⟨⟨"base"⟩, 1⟩) fun _ => .done true
    | _, _ => .done true
  handle
    | .dispatchRight, _, _ =>
      .ask (.plain (.dispatch { eventType := ⟨"right"⟩ })) fun _ => .done (.ok ())
    | _, _, _ => .done (.ok ())

/-- The second subscriber has a filter that revokes the first, and a handler that dispatches. The
third ends after one invocation, the fourth with the first event. -/
def subscribers : List (Subscriber Deed) :=
  let plain : Subscriber Deed := .ofHandler .nothing
  [{ plain with eventType := some ⟨"base"⟩ },
    { plain with
      eventType := some ⟨"left"⟩, priority := .high, filters := [.revokeFirst]
      handler := .dispatchRight },
    { plain with eventType := some ⟨"part"⟩, priority := .highest, limit := some ⟨1, Nat.one_pos⟩ },
    { plain with eventType := some ⟨"right"⟩, expireWhen := some .nothing }]

/-- All subscribe, then an event is dispatched to them, and then whoever is left is taken away. -/
def script : List (Subscriber Deed) → Script (Request Unit Signal Deed) Request.Answer (List Nat)
  | subscriber :: rest => .ask (.subscribe subscriber) fun _ => script rest
  | [] =>
    .ask (.dispatch { eventType := ⟨"part"⟩ }) fun dispatched =>
      .ask (.unsubscribeIf fun registration _ => .ok (registration.id < 4)) fun removed =>
        match dispatched, removed with
        | some (_, outcome), some (.ok count) => .done [outcome.invoked, outcome.skipped, count]
        | _, _ => .done []

/-- Two handlers are invoked, two receivers are gone when it is their turn, one registration is left
to take away; so it is on the roster. -/
theorem roster_tangled :
    (Roster.Session.play program 2 hierarchy () (script subscribers)).1 = some (.ok [2, 2, 1]) := by
  have calm : (Session.play program 2 hierarchy () (script subscribers)).2.Undisturbed :=
    of_decide_eq_true (by cbv)
  rw [(refines_roster program 2 hierarchy () (script subscribers) calm).1]
  cbv

end Tangle

end ExtensionHost
