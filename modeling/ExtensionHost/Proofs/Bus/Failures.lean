/-
**A failure stays where it happens: in the turn of one receiver of one dispatch.**

A predicate may panic, and a handler may panic or return an error, anywhere in a chain of dispatches
and after any change of the bus and the event. The turn ends with that, and the next one begins.

* `Dispatch.Fails`: the code of a receiver fails, and this is the session that it leaves.
* `Dispatch.IsStuck`: the code of a receiver does not come back.
* `on_turn_of_fails`, `turn_cases`: when code fails, the turn is settled as failed in just the
  session that is left; and it is so in no other case, and has no end only where code is stuck.
* `Fails.spares`: code that leaves the bus alone leaves its registration as it was, also by failing.
* `Serves.failures`: the failures that are reported to the log are those of the turns, in order.
* `isolates_failures`: what a dispatch makes of all failures in it.
-/

import ExtensionHost.Proofs.Bus.Delivery

namespace ExtensionHost

variable {σ ε κ : Type}

/-! ### Failures that are reported -/

/-- The failed delivery that a notice reports. -/
def Notice.failure? : Notice → Option HandlerError
  | handlerFailed error => some error
  | _ => none

/-- The failures among the notices of some activities, in order. -/
def Activity.failures (activities : List (Activity ε κ)) : List HandlerError :=
  (activities.filterMap notice?).filterMap Notice.failure?

/-- Only the end of a turn is reported as a failure. -/
theorem Activity.failures_eq (activities : List (Activity ε κ)) :
    failures activities = failures (activities.filter isSettled) := by
  unfold failures
  rw [List.filterMap_filterMap, List.filterMap_filterMap, List.filterMap_filter]
  refine List.filterMap_congr fun activity _ => ?_
  cases activity <;> rfl

namespace Dispatch

open Run

variable {program : Program σ ε κ} {nested : ε → Run σ ε κ (ε × Outcome κ)}
  {registration : Registration κ} {event left : ε} {session later : Session σ ε κ}
  {failure : Failure}

theorem Serves.failures {eventType : EventType} {receivers : List (Registration κ)}
    {own : List (Activity ε κ)} {served : List (Turn κ)}
    (serves : Serves eventType receivers own served) :
    Activity.failures own = Outcome.errors { eventType, turns := served } := by
  rw [Activity.failures_eq, serves.settled]
  unfold Activity.failures Outcome.errors
  rw [List.filterMap_map, List.filterMap_filterMap]
  refine List.filterMap_congr fun turn _ => ?_
  obtain ⟨registration, verdict⟩ := turn
  cases verdict <;> rfl

/-! ### Code that fails -/

/-- The code of a receiver fails: a predicate that is asked panics, or the handler does so or
returns an error. It leaves this session. -/
inductive Fails (program : Program σ ε κ) (nested : ε → Run σ ε κ (ε × Outcome κ))
    (registration : Registration κ) (event : ε) (session : Session σ ε κ) :
    Failure → Session σ ε κ → Prop
  | predicate {check : Check} {payload : Payload} {later : Session σ ε κ}
      (stops : Stops program nested registration event registration.subscriber.predicates session
        check (some (.error payload)) later) :
      Fails program nested registration event session (.panicked payload) later
  | panic {passed later : Session σ ε κ} {payload : Payload} {left : ε}
      (admits : Admits program nested registration event registration.subscriber.predicates session
        passed)
      (handled : on (handle program nested registration event) passed =
        (some (.error payload, left), later)) :
      Fails program nested registration event session (.panicked payload) later
  | error {passed later : Session σ ε κ} {report : Report} {left : ε}
      (admits : Admits program nested registration event registration.subscriber.predicates session
        passed)
      (handled : on (handle program nested registration event) passed =
        (some (.ok (.error report), left), later)) :
      Fails program nested registration event session (.returned report) later

/-- The code of a receiver does not come back: a predicate does not, or the handler. -/
def IsStuck (program : Program σ ε κ) (nested : ε → Run σ ε κ (ε × Outcome κ))
    (registration : Registration κ) (event : ε) (session : Session σ ε κ) : Prop :=
  (∃ check later, Stops program nested registration event registration.subscriber.predicates
    session check none later) ∨
  ∃ passed, Admits program nested registration event registration.subscriber.predicates session
    passed ∧ (on (handle program nested registration event) passed).1 = none

section

variable [Event ε] {eventType : EventType}

/-- The turn of a receiver whose code fails is settled at once, in the session that the code has
left. -/
theorem on_turn_of_fails (eventType : EventType) (offered : IsOffered session registration event)
    (fails : Fails program nested registration event session failure later) :
    ∃ left, on (turn program nested eventType registration event) session =
      settled eventType registration (.failed failure) left later := by
  cases fails with
  | @predicate check payload _ stops =>
    refine ⟨event, (on_turn_of_refused eventType offered stops).trans ?_⟩
    cases check <;> rfl
  | @panic _ _ _ left admits handled =>
    exact ⟨left, on_turn_of_handled eventType offered admits handled⟩
  | @error _ _ _ left admits handled =>
    exact ⟨left, on_turn_of_handled eventType offered admits handled⟩

/-- The code of a turn does not come back, or it fails, or the turn is settled without a failure. -/
theorem turn_cases (program : Program σ ε κ) (nested : ε → Run σ ε κ (ε × Outcome κ))
    (eventType : EventType) (registration : Registration κ) (event : ε)
    (session : Session σ ε κ) :
    (IsStuck program nested registration event session ∧
      (on (turn program nested eventType registration event) session).1 = none) ∨
    (∃ failure broken left, IsOffered session registration event ∧
      Fails program nested registration event session failure broken ∧
      on (turn program nested eventType registration event) session =
        settled eventType registration (.failed failure) left broken) ∨
    ∃ verdict left later, verdict.failure? = none ∧
      on (turn program nested eventType registration event) session =
        settled eventType registration verdict left later := by
  by_cases offered : IsOffered session registration event
  swap
  · refine .inr (.inr ⟨_, _, _, ?_, on_turn_of_declined eventType offered⟩)
    split <;> rfl
  -- either the handler is started, or the first predicate that the event does not pass decides
  rcases admits_or_stops program nested registration event registration.subscriber.predicates
    session with ⟨passed, admits⟩ | ⟨check, _ | answer, stopped, stops⟩
  · rcases handled : on (handle program nested registration event) passed with
      ⟨_ | ⟨result, left⟩, broken⟩
    · have stuck := congrArg Prod.fst (on_turn_of_unended eventType offered admits handled)
      exact .inl ⟨.inr ⟨passed, admits, congrArg Prod.fst handled⟩, stuck⟩
    · have ended := on_turn_of_handled eventType offered admits handled
      rcases result with payload | report | _
      · exact .inr (.inl ⟨_, _, _, offered, .panic admits handled, ended⟩)
      · exact .inr (.inl ⟨_, _, _, offered, .error admits handled, ended⟩)
      · exact .inr (.inr ⟨_, _, _, rfl, ended⟩)
  · have stuck := congrArg Prod.fst (on_turn_of_unanswered eventType offered stops)
    exact .inl ⟨.inl ⟨check, stopped, stops⟩, stuck⟩
  · have ended := on_turn_of_refused eventType offered stops
    rcases answer with payload | holds
    · obtain ⟨left, failed⟩ := on_turn_of_fails eventType offered (.predicate stops)
      exact .inr (.inl ⟨_, _, left, offered, .predicate stops, failed⟩)
    · refine .inr (.inr ⟨_, _, _, ?_, ended⟩)
      cases check <;> rfl

/-- A turn is settled as failed exactly when the code of the receiver has failed. -/
theorem failed_iff {turn : Turn κ}
    (ended : on (Dispatch.turn program nested eventType registration event) session =
      (some (turn, left), later)) :
    turn.verdict = .failed failure ↔ IsOffered session registration event ∧
      ∃ broken, Fails program nested registration event session failure broken := by
  constructor
  · intro failed
    rcases turn_cases program nested eventType registration event session with
      ⟨-, endless⟩ | ⟨other, broken, final, offered, fails, settling⟩ |
        ⟨verdict, final, calm, unfailed, settling⟩
    · rw [ended] at endless
      cases endless
    · cases ended.symm.trans settling
      cases failed
      exact ⟨offered, broken, fails⟩
    · cases ended.symm.trans settling
      rw [show verdict = .failed failure from failed] at unfailed
      cases unfailed
  · rintro ⟨offered, broken, fails⟩
    obtain ⟨next, settling⟩ := on_turn_of_fails eventType offered fails
    cases ended.symm.trans settling
    rfl

/-- A turn has no end only where code does not come back. -/
theorem stuck_of_endless
    (endless : on (turn program nested eventType registration event) session = (none, later)) :
    IsStuck program nested registration event session := by
  rcases turn_cases program nested eventType registration event session with
    ⟨stuck, -⟩ | ⟨_, _, _, -, -, settling⟩ | ⟨_, _, _, -, settling⟩
  · exact stuck
  · cases endless.symm.trans settling
  · cases endless.symm.trans settling

end

/-! ### What a failure leaves alone -/

section

variable {mayHalt : Bool}

theorem asks_of_mem_predicates (alone : program.LeavesAlone mayHalt registration)
    {predicate : Check × κ} (member : predicate ∈ registration.subscriber.predicates) (event : ε) :
    (program.test predicate.2 event).Asks (Request.IsDetached mayHalt) := by
  rcases List.mem_append.mp member with filter | expiry
  · obtain ⟨numbered, among, rfl⟩ := List.mem_map.mp filter
    exact alone.filters numbered.1 (List.fst_mem_of_mem_zipIdx among) event
  · obtain ⟨test, among, rfl⟩ := List.mem_map.mp expiry
    exact alone.expiry test (Option.mem_toList.mp among) event

variable {predicates : List (Check × κ)} {check : Check} {answer : Option (Except Payload Bool)}
  {passed : Session σ ε κ}

/-- Code that leaves the bus alone leaves its own registration as it is. -/
theorem spares_ask {test : κ} (asks : (program.test test event).Asks (Request.IsDetached mayHalt))
    (asked : on (ask program nested registration check test event) session = (answer, later)) :
    session.bus.Spares registration later.bus := by
  have disregards : Disregards registration mayHalt
      (ask program nested registration check test event) := disregards_ask asks check
  have spared := disregards.spares session
  rwa [asked] at spared

theorem Admits.spares (each : ∀ predicate ∈ predicates,
      (program.test predicate.2 event).Asks (Request.IsDetached mayHalt))
    (admits : Admits program nested registration event predicates session passed) :
    session.bus.Spares registration passed.bus := by
  induction admits with
  | nil session => exact .refl _ _
  | cons asked others ih =>
    obtain ⟨first, rest⟩ := List.forall_mem_cons.mp each
    exact (spares_ask first asked).trans (ih rest)

theorem Stops.spares (each : ∀ predicate ∈ predicates,
      (program.test predicate.2 event).Asks (Request.IsDetached mayHalt))
    (stops : Stops program nested registration event predicates session check answer later) :
    session.bus.Spares registration later.bus := by
  induction stops with
  | here asked refuses => exact spares_ask (List.forall_mem_cons.mp each).1 asked
  | further asked others ih =>
    obtain ⟨first, rest⟩ := List.forall_mem_cons.mp each
    exact (spares_ask first asked).trans (ih rest)

/-- Where the code of a receiver leaves the bus alone, its failure does not end the registration,
and no invocation is counted. -/
theorem Fails.spares (alone : program.LeavesAlone mayHalt registration)
    (fails : Fails program nested registration event session failure later) :
    session.bus.Spares registration later.bus := by
  have each (predicate : Check × κ) (member : predicate ∈ registration.subscriber.predicates) :=
    asks_of_mem_predicates alone member event
  have handles : Disregards registration mayHalt (handle program nested registration event) :=
    disregards_handle alone event
  cases fails with
  | predicate stops => exact stops.spares each
  | @panic passed _ _ _ admits handled =>
    have spared := handles.spares passed
    rw [handled] at spared
    exact (admits.spares each).trans spared
  | @error passed _ _ _ admits handled =>
    have spared := handles.spares passed
    rw [handled] at spared
    exact (admits.spares each).trans spared

end

/-! ### All failures of a dispatch -/

/-- **Failures stay where they happen.** For whatever code, and in every session, a dispatch comes
to an end unless the code of a turn does not come back; and if no code halts, it does so unless as
many dispatches run one inside the other as may. No failure keeps it from that. The outcome accounts
for every receiver, and has one error for each turn that failed, in order, under the name and number
of the registration and the type that the event had at first; and the log has the same. A turn has
failed exactly when the code of its receiver has, and then the bus is left as that code has left it:
a receiver whose code leaves the bus alone is live as before, with as many invocations left. -/
theorem isolates_failures [Event ε] (program : Program σ ε κ) (depth : Nat) (event : ε)
    (session : Session σ ε κ) :
    let eventType := Event.eventType event
    let nested := dispatch program depth
    let run := on (dispatch program (depth + 1) event) session
    ((∀ served registration current now,
        Comes program depth event session served registration current now →
          ¬ IsStuck program nested registration current now) → run.1.isSome = true) ∧
    (program.HaltsOnlyIf false →
      run.2.bus.running < session.bus.running + (depth + 1) → run.1.isSome = true) ∧
    ∀ left outcome, run.1 = some (left, outcome) →
      outcome.turns.map Turn.registration = (session.bus.receivers eventType).list ∧
      (∀ hierarchy memory, Session.Reached hierarchy memory session →
        (outcome.turns.map Turn.registration).Nodup) ∧
      outcome.invoked + outcome.skipped + outcome.errors.length =
        (session.bus.receivers eventType).list.length ∧
      (outcome.errors = outcome.turns.filterMap fun turn => turn.verdict.failure?.map fun failure =>
        { subscriber :=
            turn.registration.subscriber.name ++ "#" ++ toString turn.registration.id
          eventType, failure }) ∧
      Activity.failures (session.notedAt (session.bus.running + 1) run.2) = outcome.errors ∧
      ∀ before turn after, outcome.turns = before ++ turn :: after → ∃ current now,
        Comes program depth event session before turn.registration current now ∧
        (∀ failure, turn.verdict = .failed failure ↔
          IsOffered now turn.registration current ∧
            ∃ broken, Fails program nested turn.registration current now failure broken) ∧
        ∀ failure broken, IsOffered now turn.registration current →
          Fails program nested turn.registration current now failure broken →
            (∃ next, on (Dispatch.turn program nested eventType turn.registration current) now =
              settled eventType turn.registration (.failed failure) next broken) ∧
            (program.LeavesAlone true turn.registration →
              now.bus.Spares turn.registration broken.bus) := by
  intro eventType nested run
  refine ⟨fun unstuck => ?_, fun goesOn room => ?_, fun left outcome ended => ?_⟩
  · rw [Option.isSome_iff_ne_none]
    intro endless
    obtain ⟨served, registration, current, now, comes, stuck⟩ :=
      exists_comes_of_endless (Prod.ext endless rfl : run = (none, run.2))
    exact unstuck served registration current now comes (stuck_of_endless stuck)
  · rw [Option.isSome_iff_ne_none]
    intro endless
    have deepest := (nests_dispatch goesOn (depth + 1) event session).stops rfl endless
    exact absurd deepest (Nat.ne_of_lt room)
  have returned : run = (some (left, outcome), run.2) := Prod.ext ended rfl
  have listed := turns_of_dispatch program returned
  obtain ⟨-, served, serves, same⟩ := serves_dispatch program depth event session
  have known : outcome = { eventType, turns := served } := same (left, outcome) ended
  refine ⟨listed, fun hierarchy memory reached => ?_, ?_, ?_, ?_,
    fun before turn after split => ?_⟩
  · rw [listed]
    exact Session.nodup_receivers reached eventType
  · rw [← listed, List.length_map]
    exact outcome.total_eq
  · rw [known]
    rfl
  · rw [known]
    exact serves.failures
  · obtain ⟨current, now, next, middle, comes, here⟩ := comes_of_ended returned split
    refine ⟨current, now, comes, fun failure => failed_iff here,
      fun failure broken offered fails => ⟨on_turn_of_fails eventType offered fails, ?_⟩⟩
    exact fun alone => fails.spares alone

end Dispatch

/-! ### A dispatch in which almost everything fails -/

namespace Failing

def hierarchy : Hierarchy :=
  .ofDeclared ⟨[(⟨"inner"⟩, []), (⟨"part"⟩, [])], by decide⟩

/-- What the code does. -/
inductive Deed where
  /-- It panics. -/
  | panics
  /-- It changes the type of the event, and returns an error. -/
  | retypes
  /-- It dispatches an event of its own. -/
  | enters
  /-- It takes registrations away by a predicate that panics, and so it panics itself. -/
  | sweeps

def program : Program Unit Signal Deed where
  test _ _ := .panic (.text "refused")
  handle deed _ _ :=
    match deed with
    | .panics => .panic .other
    | .retypes => .ask (.amend fun _ => { eventType := ⟨"other"⟩ }) fun _ =>
        .done (.error { root := "spent" })
    | .enters => .ask (.plain (.dispatch { eventType := ⟨"inner"⟩ })) fun _ => .done (.ok ())
    | .sweeps => .ask (.plain (.unsubscribeIf fun _ _ => .error (.text "confused"))) fun _ =>
        .panic (.text "confused")

/-- The first receiver fails by its filter, the second one returns an error, the third one enters a
dispatch to the last registration, which panics, and the fourth one panics. -/
def registrations : List (Registration Deed) :=
  [⟨1, ⟨"part"⟩, { Subscriber.ofHandler .enters with filters := [.panics] }⟩,
    ⟨2, ⟨"part"⟩, { Subscriber.ofHandler .retypes with name := "timer" }⟩,
    ⟨3, ⟨"part"⟩, .ofHandler .enters⟩, ⟨4, ⟨"part"⟩, .ofHandler .sweeps⟩,
    ⟨5, ⟨"inner"⟩, .ofHandler .panics⟩]

def session : Session Unit Signal Deed :=
  (Session.play program 2 hierarchy () (.enrolling registrations)).2

def run : Option (Signal × Outcome Deed) × Session Unit Signal Deed :=
  Run.on (Dispatch.dispatch program 2 { eventType := ⟨"part"⟩ }) session

/-- The errors of the dispatch from outside; the type is that of the event at first. -/
def errors : List HandlerError :=
  [⟨"anonymous#1", ⟨"part"⟩, .panicked (.text "refused")⟩,
    ⟨"timer#2", ⟨"part"⟩, .returned { root := "spent" }⟩,
    ⟨"anonymous#4", ⟨"part"⟩, .panicked (.text "confused")⟩]

theorem neverHalts : program.HaltsOnlyIf false where
  test _ _ := trivial
  handle deed _ _ := by
    cases deed
    · trivial
    · exact ⟨trivial, fun _ => trivial⟩
    · exact ⟨trivial, fun _ => trivial⟩
    · exact ⟨trivial, fun _ => trivial⟩

/-- Three of the four turns fail, and the failure in the dispatch inside is not among their errors;
the second registration stays as it was. -/
theorem failures_failing :
    ∃ left outcome, run.1 = some (left, outcome) ∧ outcome.errors = errors ∧
      outcome.invoked + outcome.skipped + outcome.errors.length = 4 ∧
      Activity.failures (session.notedAt 1 run.2) = errors ∧
      Activity.failures (session.notedAt 2 run.2) =
        [⟨"anonymous#5", ⟨"inner"⟩, .panicked .other⟩] ∧
      run.2.bus.standing 2 = session.bus.standing 2 := by
  obtain ⟨-, returns, accounts⟩ :=
    Dispatch.isolates_failures program 1 ({ eventType := ⟨"part"⟩ } : Signal) session
  obtain ⟨before, after, listed⟩ : session.bus.running = 0 ∧ run.2.bus.running = 0 ∧
      (session.bus.receivers ⟨"part"⟩).list.length = 4 := of_decide_eq_true (by cbv)
  have room : run.2.bus.running < session.bus.running + 2 := by omega
  obtain ⟨⟨left, outcome⟩, is⟩ := Option.isSome_iff_exists.mp (returns neverHalts room)
  obtain ⟨-, -, total, -, logged, -⟩ := accounts left outcome is
  have told : (run.1.map fun dispatched => dispatched.2.errors) = some errors := by cbv
  have same : outcome.errors = errors := by
    rw [show run.1 = some (left, outcome) from is] at told
    exact Option.some.inj told
  refine ⟨left, outcome, is, same, total.trans listed, ?_, by cbv, by cbv⟩
  rw [before, same] at logged
  exact logged

end Failing

end ExtensionHost
