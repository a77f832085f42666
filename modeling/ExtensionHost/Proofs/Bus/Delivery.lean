/-
**Who gets a turn in a dispatch, and whose handler is started.**

The receivers are settled when the dispatch begins: whatever code does meanwhile, they have their
turns in that order. All else is decided when the turn comes, by what the bus and the event are
then.

* `Bus.Sorted`: every list of receivers that is known is in strict running order, also one that is
  out of date. Every session has such a bus.
* `turns_of_entry`: the turns of a dispatch are those of the receivers that were known, or computed,
  when it began.
* `starts_iff_admitted`: when a handler is started, and which predicates are asked before.
-/

import ExtensionHost.Proofs.Bus.Turns

namespace ExtensionHost

open Relation (ReflTransGen)

variable {σ ε κ : Type}

/-! ### Lists in running order -/

namespace Bus

/-- Every list of receivers that is known is in strict running order, and so holds nobody twice. -/
def Sorted (bus : Bus κ) : Prop :=
  ∀ eventType list, bus.cache.get? eventType = some list →
    list.Pairwise Registration.RunsStrictlyBefore

variable {bus later : Bus κ}

theorem sorted_of_unknown (unknown : bus.cache = ∅) : bus.Sorted := by
  intro eventType list known
  rw [unknown] at known
  cases known

theorem Sorted.congr (sorted : bus.Sorted) (cache : later.cache = bus.cache) : later.Sorted := by
  intro eventType list known
  rw [cache] at known
  exact sorted eventType list known

theorem Sorted.of_receivers (sorted : bus.Sorted) (sound : bus.Sound) (eventType : EventType) :
    (bus.receivers eventType).list.Pairwise Registration.RunsStrictlyBefore ∧
      (bus.receivers eventType).bus.Sorted := by
  unfold receivers
  split
  · rename_i declared
    split
    · rename_i list known
      exact ⟨sorted eventType list known, sorted⟩
    · have collected := (sound.lists_collect declared).increasing
      refine ⟨collected, fun other list known => ?_⟩
      replace known := (Table.get?_insert bus.cache _ _ _).symm.trans known
      split at known
      · rw [← Option.some.inj known]
        exact collected
      · exact sorted other list known
  · exact ⟨List.Pairwise.nil, sorted⟩

/-- As long as no predicate on registrations has panicked, the receivers are computed anew or up to
date. -/
theorem Coherent.receivers_eq (coherent : bus.Coherent) (eventType : EventType) :
    (bus.receivers eventType).list = bus.collect eventType := by
  rw [← coherent.reliable.filter_isLive_receivers, eq_comm, List.filter_eq_self]
  have none_ended := coherent.overdue_eq_zero eventType
  unfold overdue at none_ended
  intro registration member
  have live := List.countP_eq_zero.mp none_ended registration member
  rwa [Bool.not_eq_true', Bool.not_eq_false] at live

end Bus

namespace Session

theorem Step.sorted {session later : Session σ ε κ} (step : Step session later)
    (sound : session.bus.Sound) (sorted : session.bus.Sorted) : later.bus.Sorted := by
  cases step with
  | remember memory => exact sorted
  | enrol accepted => exact Bus.sorted_of_unknown (Bus.gains_of_subscribeTo accepted).2.cache
  | revoke found =>
    refine Bus.sorted_of_unknown ?_
    obtain ⟨-, rfl⟩ := Bus.revoke?_eq_some found
    rfl
  | sweep selector order =>
    -- a panic leaves the lists as they are, with those that were taken away in their places
    rcases session.bus.cache_sweep selector order with unknown | kept
    · exact Bus.sorted_of_unknown unknown
    · exact sorted.congr kept
  | collect eventType => exact (sorted.of_receivers sound eventType).2
  | hold handles running => exact sorted.congr rfl
  | count id => exact sorted.congr rfl
  | note activity plain => exact sorted

theorem sorted_of_reached [Event ε] {hierarchy : Hierarchy} {memory : σ} {session : Session σ ε κ}
    (reached : Reached hierarchy memory session) : session.bus.Sorted := by
  have steps := reached.steps
  clear reached
  suffices both : session.bus.Sound ∧ session.bus.Sorted from both.2
  induction steps with
  | refl => exact ⟨(Bus.coherent_start hierarchy).toSound, Bus.sorted_of_unknown rfl⟩
  | tail _ step ih => exact ⟨step.sound ih.1, step.sorted ih.1 ih.2⟩

/-- Nobody is twice among the receivers of an event type. -/
theorem nodup_receivers [Event ε] {hierarchy : Hierarchy} {memory : σ} {session : Session σ ε κ}
    (reached : Reached hierarchy memory session) (eventType : EventType) :
    (session.bus.receivers eventType).list.Nodup := by
  have sorted := (sorted_of_reached reached).of_receivers (sound_of_reached reached) eventType
  refine sorted.1.imp fun before same => ?_
  subst same
  exact irrefl _ before

/-- The receivers of an event type were registered. -/
theorem Accounted.enrolled_of_receivers {session : Session σ ε κ} (accounted : session.Accounted)
    {eventType : EventType} {registration : Registration κ}
    (member : registration ∈ (session.bus.receivers eventType).list) :
    registration ∈ session.enrolled := by
  have known := Bus.cache_receivers (List.ne_nil_of_mem member)
  have collected := (Step.collect session eventType).accounted accounted
  have enrolled := collected.known known registration member
  rwa [enrolled_record_of_none] at enrolled
  unfold Run.collecting
  split <;> rfl

end Session

/-! ### The receivers of a dispatch -/

namespace Dispatch

open Run

variable [Event ε]

/-- **The turns of a dispatch are those of its receivers when it began**, each once and in running
order, whatever code does to the registrations and to the event meanwhile. If no predicate on
registrations has panicked, the receivers are those that the bus has for the type and its ancestors;
else they are so without those that have ended. What the dispatch puts on record, whether it ends or
not, is about these receivers only, which were all registered before. A receiver that is not live
when its turn comes is skipped, and nothing of its code runs. -/
theorem turns_of_entry {hierarchy : Hierarchy} {memory : σ} {session : Session σ ε κ}
    (reached : Session.Reached hierarchy memory session) (program : Program σ ε κ) (depth : Nat)
    (event : ε) :
    let eventType := Event.eventType event
    let receivers := (session.bus.receivers eventType).list
    let run := on (dispatch program (depth + 1) event) session
    let noted := session.notedAt (session.bus.running + 1) run.2
    (receivers.Pairwise Registration.RunsStrictlyBefore ∧
      receivers.filter session.bus.isLive = session.bus.collect eventType ∧
      (session.Undisturbed → receivers = session.bus.collect eventType)) ∧
    (∃ served : List (Turn κ),
      noted.filter Activity.isSettled = served.map (.settled eventType) ∧
      served.map Turn.registration <+: receivers ∧
      ∀ left outcome, run.1 = some (left, outcome) →
        outcome = { eventType, turns := served } ∧ served.map Turn.registration = receivers) ∧
    (∀ activity ∈ noted, ∀ registration ∈ activity.receiver?,
      registration ∈ receivers ∧ registration ∈ session.enrolled) ∧
    ∀ served registration current now,
      Comes program depth event session served registration current now →
      (now.bus.standing registration.id).live = false →
        on (turn program (dispatch program depth) eventType registration current) now =
          settled eventType registration .gone current now ∧
        ∀ left outcome, run.1 = some (left, outcome) →
          served ++ [⟨registration, .gone⟩] <+: outcome.turns ∧
          (served.countP fun turn => turn.verdict.isSkip) < outcome.skipped := by
  intro eventType receivers run noted
  have reliable := Session.reliable_of_reached reached
  have accounted := Session.accounted_of_steps reached.steps
    (Session.accounted_start hierarchy memory)
  obtain ⟨-, served, serves, same⟩ := serves_dispatch program depth event session
  refine ⟨⟨?_, reliable.filter_isLive_receivers eventType, fun undisturbed => ?_⟩,
    ⟨served, serves.settled, serves.inOrder, fun left outcome ended => ?_⟩,
    fun activity member registration found => ?_,
    fun before registration current now comes gone => ?_⟩
  · exact ((Session.sorted_of_reached reached).of_receivers reliable.toSound eventType).1
  · exact (Session.coherent_of_reached reached undisturbed).receivers_eq eventType
  · have known : outcome = { eventType, turns := served } := same (left, outcome) ended
    have listed := turns_of_dispatch program (Prod.ext ended rfl)
    rw [known] at listed
    exact ⟨known, listed⟩
  · have among := serves.about activity member registration found
    exact ⟨among, accounted.enrolled_of_receivers among⟩
  · have skipped : on (turn program (dispatch program depth) eventType registration current) now =
        settled eventType registration .gone current now := by
      have declined : ¬ IsOffered now registration current := fun offered =>
        Bool.false_ne_true (gone.symm.trans offered.1)
      rw [on_turn_of_declined eventType declined, gone, if_neg Bool.false_ne_true]
    refine ⟨skipped, fun left outcome ended => ?_⟩
    have counts := comes.has_turn skipped (Prod.ext ended rfl)
    refine ⟨counts, Nat.lt_of_lt_of_le ?_ (counts.sublist.countP_le)⟩
    rw [List.countP_append]
    exact Nat.lt_succ_self _

end Dispatch

/-- The code that makes these registrations, one after the other. -/
def Script.enrolling : List (Registration κ) → Script (Request σ ε κ) Request.Answer Unit
  | registration :: rest =>
    .ask (.subscribeTo registration.eventType registration.subscriber) fun _ => enrolling rest
  | [] => .done ()

/-! ### A dispatch during which everything changes -/

namespace Upheaval

def hierarchy : Hierarchy :=
  .ofDeclared (.singleton ⟨"part"⟩ [])

def late : Subscriber Bool :=
  .ofHandler false

/-- The one handler registers somebody, revokes the second registration and changes the type of the
event; the other one does nothing. -/
def program : Program Unit Signal Bool where
  test _ _ := .done true
  handle acts _ _ :=
    if acts then
      .ask (.plain (.subscribeTo ⟨"part"⟩ late)) fun _ =>
        .ask (.plain (.revoke ⟨⟨"part"⟩, 2⟩)) fun _ =>
          .ask (.amend fun _ => { eventType := ⟨"other"⟩ }) fun _ => .done (.ok ())
    else .done (.ok ())

/-- The registrations before the dispatch. -/
def receivers : List (Registration Bool) :=
  [⟨1, ⟨"part"⟩, .ofHandler true⟩, ⟨2, ⟨"part"⟩, .ofHandler false⟩,
    ⟨3, ⟨"part"⟩, .ofHandler false⟩]

def session : Session Unit Signal Bool :=
  (Session.play program 1 hierarchy () (.enrolling receivers)).2

def run : Option (Signal × Outcome Bool) × Session Unit Signal Bool :=
  Run.on (Dispatch.dispatch program 1 { eventType := ⟨"part"⟩ }) session

/-- What is left by the turn of the first receiver. -/
def left : Option (List (Turn Bool) × Signal) × Session Unit Signal Bool :=
  Run.on (Dispatch.turns program (Dispatch.dispatch program 0) ⟨"part"⟩ (receivers.take 1)
    { eventType := ⟨"part"⟩ }) (Dispatch.begun session ⟨"part"⟩)

/-- The new registration is on the bus, but has no turn, and the one that was revoked is skipped.
The dispatch goes on with the others of its type, although the event has another one now. -/
theorem turns_upheaval :
    (run.1.map fun dispatched => dispatched.2.turns.map fun turn =>
      (turn.registration.id, turn.verdict)) = some [(1, .invoked), (2, .gone), (3, .invoked)] ∧
      (run.1.map fun dispatched => dispatched.1.eventType) = some ⟨"other"⟩ ∧
      ⟨4, ⟨"part"⟩, late⟩ ∈ run.2.enrolled ∧
      (∀ activity ∈ session.notedAt 1 run.2, ∀ registration ∈ activity.receiver?,
        registration ∈ receivers) ∧
      Run.on (Dispatch.turn program (Dispatch.dispatch program 0) ⟨"part"⟩
          ⟨2, ⟨"part"⟩, .ofHandler false⟩ { eventType := ⟨"other"⟩ }) left.2 =
        Dispatch.settled ⟨"part"⟩ ⟨2, ⟨"part"⟩, .ofHandler false⟩ .gone
          { eventType := ⟨"other"⟩ } left.2 := by
  have reached : Session.Reached hierarchy () session := ⟨program, 1, .enrolling receivers, rfl⟩
  obtain ⟨-, -, about, skips⟩ :=
    Dispatch.turns_of_entry reached program 0 ({ eventType := ⟨"part"⟩ } : Signal)
  have listed : (session.bus.receivers ⟨"part"⟩).list = receivers := by cbv
  have outside : session.bus.running = 0 := by cbv
  have enrolled : run.2.enrolled = receivers ++ [⟨4, ⟨"part"⟩, late⟩] := by cbv
  have comes : Dispatch.Comes program 0 ({ eventType := ⟨"part"⟩ } : Signal) session
      [⟨⟨1, ⟨"part"⟩, .ofHandler true⟩, .invoked⟩] ⟨2, ⟨"part"⟩, .ofHandler false⟩
      { eventType := ⟨"other"⟩ } left.2 :=
    ⟨⟨[⟨3, ⟨"part"⟩, .ofHandler false⟩], listed⟩, Prod.ext (by cbv) rfl⟩
  refine ⟨by cbv, by cbv, ?_, fun activity member registration found => ?_,
    (skips _ _ _ _ comes (by cbv)).1⟩
  · rw [enrolled]
    exact List.mem_append_right _ List.mem_cons_self
  · rw [← listed]
    refine (about activity ?_ registration found).1
    rw [outside]
    exact member

end Upheaval

/-! ### The decision -/

namespace Dispatch

open Run

/-- **The decision of one turn.** A dispatch has come to the turn of a receiver, and the event is as
the turns before have left it, with all that was dispatched inside them. The handler is started
exactly when the receiver is live, accepts the event if that is cancelled, and the event passes all
filters and does not end the registration. The predicates are asked in order, as long as it passes;
and nobody is asked for a receiver that is passed over. -/
theorem starts_iff_admitted [Event ε] {program : Program σ ε κ} {depth : Nat} {event : ε}
    {session : Session σ ε κ} {served : List (Turn κ)} {registration : Registration κ} {current : ε}
    {now : Session σ ε κ}
    (comes : Comes program depth event session served registration current now) :
    let eventType := Event.eventType event
    let run := on (turn program (dispatch program depth) eventType registration current) now
    run.2.journal <+: (on (dispatch program (depth + 1) event) session).2.journal ∧
      ∃ (answers : List (Check × Except Payload Bool)) (started : Bool),
        now.notedAt (session.bus.running + 1) run.2 =
          marks eventType registration current answers started run.1 ∧
        (started = true ↔ IsOffered now registration current ∧ ∃ passed,
          Admits program (dispatch program depth) registration current
            registration.subscriber.predicates now passed) ∧
        Check.Answered registration.subscriber.predicates answers ∧
        (¬ IsOffered now registration current → answers = [] ∧
          run = settled eventType registration
            (if (now.bus.standing registration.id).live then .cancelled else .gone) current
            now) := by
  intro eventType run
  obtain ⟨answers, started, leads, answered, asked, starts⟩ :=
    leads_turn (nests_dispatch program.haltsOnlyIf_true depth) program.haltsOnlyIf_true eventType
      registration current now
  refine ⟨comes.journal_grows, answers, started, ?_, starts, answered, fun declined => ⟨?_, ?_⟩⟩
  · rw [← comes.running]
    exact leads.notes.notedAt_eq
  · exact Decidable.not_not.mp fun some_asked => declined (asked some_asked)
  · exact on_turn_of_declined eventType declined

end Dispatch

/-! ### An event that is cancelled on its way -/

namespace Cancelling

def hierarchy : Hierarchy :=
  .ofDeclared (.singleton ⟨"part"⟩ [])

/-- As a handler, the one name cancels the event and the other does nothing. As predicates, the one
holds and the other does not. -/
def program : Program Unit Signal Bool where
  test holds _ := .done holds
  handle cancels _ _ :=
    if cancels then .ask (.amend fun signal => { signal with isCancelled := true }) fun _ =>
      .done (.ok ())
    else .done (.ok ())

/-- The first receiver cancels the event, the second one does not accept that, and the third one
does and has predicates that the event passes. -/
def first : Registration Bool :=
  ⟨1, ⟨"part"⟩, .ofHandler true⟩

def second : Registration Bool :=
  ⟨2, ⟨"part"⟩, { Subscriber.ofHandler false with filters := [true] }⟩

def third : Registration Bool :=
  ⟨3, ⟨"part"⟩, { Subscriber.ofHandler false with
    acceptsCancelled := true, filters := [true], expireWhen := some false }⟩

def session : Session Unit Signal Bool :=
  (Session.play program 1 hierarchy () (.enrolling [first, second, third])).2

/-- The event as the first receiver leaves it. -/
def cancelled : Signal where
  eventType := ⟨"part"⟩
  isCancelled := true

/-- The session after the turns of these receivers. -/
def after (receivers : List (Registration Bool)) : Session Unit Signal Bool :=
  (Run.on (Dispatch.turns program (Dispatch.dispatch program 0) ⟨"part"⟩ receivers
    { eventType := ⟨"part"⟩ }) (Dispatch.begun session ⟨"part"⟩)).2

theorem listed : (session.bus.receivers ⟨"part"⟩).list = [first, second, third] := by cbv

theorem comes_second : Dispatch.Comes program 0 ({ eventType := ⟨"part"⟩ } : Signal) session
    [⟨first, .invoked⟩] second cancelled (after [first]) :=
  ⟨⟨[third], listed⟩, Prod.ext (by cbv) rfl⟩

theorem comes_third : Dispatch.Comes program 0 ({ eventType := ⟨"part"⟩ } : Signal) session
    [⟨first, .invoked⟩, ⟨second, .cancelled⟩] third cancelled (after [first, second]) :=
  ⟨⟨[], listed⟩, Prod.ext (by cbv) rfl⟩

/-- The turn of the second receiver is over at once, and the handler of the third one is started. -/
theorem decisions_cancelling :
    Run.on (Dispatch.turn program (Dispatch.dispatch program 0) ⟨"part"⟩ second cancelled)
        (after [first]) =
      Dispatch.settled ⟨"part"⟩ second .cancelled cancelled (after [first]) ∧
      .handling third cancelled ∈ (after [first, second]).notedAt 1
        (Run.on (Dispatch.turn program (Dispatch.dispatch program 0) ⟨"part"⟩ third cancelled)
          (after [first, second])).2 := by
  have outside : session.bus.running = 0 := by cbv
  constructor
  · obtain ⟨-, answers, started, -, -, -, passed_over⟩ :=
      Dispatch.starts_iff_admitted comes_second
    have live : ((after [first]).bus.standing second.id).live = true := by cbv
    have declined : ¬ Dispatch.IsOffered (after [first]) second cancelled := fun offered =>
      Bool.false_ne_true (offered.2 rfl)
    have skipped := (passed_over declined).2
    rw [live, if_pos rfl] at skipped
    exact skipped
  · obtain ⟨-, answers, started, noted, starts, -, -⟩ := Dispatch.starts_iff_admitted comes_third
    have offered : Dispatch.IsOffered (after [first, second]) third cancelled :=
      ⟨by cbv, fun _ => rfl⟩
    obtain rfl := starts.mpr ⟨offered, _, .cons rfl (.cons rfl (.nil _))⟩
    rw [outside] at noted
    refine noted.symm ▸ ?_
    exact List.mem_append_left _ (List.mem_append_right _ List.mem_cons_self)

end Cancelling

end ExtensionHost
