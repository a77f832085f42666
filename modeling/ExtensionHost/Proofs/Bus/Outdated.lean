/-
**Receivers that are out of date do no harm.**

When a predicate on registrations has panicked, the lists of receivers that are known may still hold
registrations that were taken away before. A dispatch looks at every receiver when its turn comes,
and so it passes over these and serves the others.

* `Bus.Reliable.filter_isLive`: without those that have ended, a known list is the right one.
* `Activity.PassesOver`, `Stage.PassesOver`: nothing of the code of a registration runs.
* `Move.passesOver`, `passesOver_of_moves`: no move calls the code of a registration that has ended
  before.
* `dispatch_serves_live`: so it is with every dispatch, in every session.
-/

import ExtensionHost.Proofs.Bus.Counting
import ExtensionHost.Proofs.Bus.Frames

namespace ExtensionHost

open Relation (ReflTransGen)

variable {σ ε κ : Type}

/-! ### Lists of receivers -/

namespace Bus

variable {bus : Bus κ} {eventType : EventType}

theorem Lists.eq {first second : List (Registration κ)} (one : bus.Lists eventType first)
    (other : bus.Lists eventType second) : first = second :=
  one.increasing.eq_of_mem_iff other.increasing fun registration => by
    rw [one.mem_iff, other.mem_iff]

theorem Sound.collect_of_undeclared (sound : bus.Sound)
    (undeclared : bus.hierarchy.contains eventType = false) : bus.collect eventType = [] := by
  have none_counted := subscriberCount_of_undeclared sound undeclared
  rw [subscriberCount_eq] at none_counted
  unfold collect
  rw [List.eq_nil_of_length_eq_zero none_counted, List.mergeSort_nil]

namespace Reliable

theorem filter_isLive (reliable : bus.Reliable) {list : List (Registration κ)}
    (known : bus.cache.get? eventType = some list) :
    list.filter bus.isLive = bus.collect eventType :=
  (reliable.known known).eq (reliable.toSound.lists_collect (reliable.known known).declared)

theorem filter_isLive_receivers (reliable : bus.Reliable) (eventType : EventType) :
    (bus.receivers eventType).list.filter bus.isLive = bus.collect eventType := by
  by_cases declared : bus.hierarchy.contains eventType = true
  · exact (reliable.lists_receivers declared).eq (reliable.toSound.lists_collect declared)
  · rw [receivers_of_undeclared declared,
      reliable.toSound.collect_of_undeclared (Bool.eq_false_iff.mpr declared)]
    rfl

end Reliable

end Bus

/-! ### Passing over a registration -/

section

variable (lost : Registration κ)

/-- No code of the registration was called, and it had no turn but one as a registration that is
gone. -/
def Activity.PassesOver : Activity ε κ → Prop
  | tested registration _ _ _ | handling registration _ => registration ≠ lost
  | settled _ turn => turn.registration = lost → turn.verdict = .gone
  | _ => True

/-- The same of a turn that is not on record. -/
def Stage.PassesOver : Stage κ → Prop
  | between => True
  | asked registration | asking registration | handling registration => registration ≠ lost
  | finished turn => turn.registration = lost → turn.verdict = .gone

/-- No code of the registration runs, and none was called since the journal was this one. -/
structure Moment.PassesOver (journal : List (Entry ε κ)) (moment : Moment σ ε κ) : Prop where
  frames : ∀ frame ∈ moment.frames, frame.stage.PassesOver lost
  journal : ∃ added, moment.session.journal = journal ++ added ∧
    ∀ entry ∈ added, entry.activity.PassesOver lost

end

variable {lost : Registration κ}

theorem Activity.passesOver_of_isChange {activity : Activity ε κ}
    (change : activity.isChange = true) : activity.PassesOver lost := by
  cases activity <;> trivial

theorem Stage.passesOver_finished {registration : Registration κ} (other : registration ≠ lost)
    (verdict : Verdict) : (Stage.finished ⟨registration, verdict⟩).PassesOver lost :=
  fun same => absurd same other

namespace Moment.PassesOver

variable {journal : List (Entry ε κ)} {frame next : Frame κ} {frames others outer : List (Frame κ)}
  {session later : Session σ ε κ} {activities : List (Activity ε κ)}

theorem record (passes : PassesOver lost journal ⟨frames, session⟩)
    (grown : later.journal = session.journal ++ session.entries activities)
    (quiet : ∀ activity ∈ activities, activity.PassesOver lost)
    (stages : ∀ frame ∈ others, frame.stage.PassesOver lost) :
    PassesOver lost journal ⟨others, later⟩ := by
  obtain ⟨added, known, earlier⟩ := passes.journal
  refine ⟨stages, added ++ session.entries activities, ?_, fun entry member => ?_⟩
  · rw [grown, known, List.append_assoc]
  · rcases List.mem_append.mp member with old | new
    · exact earlier entry old
    · obtain ⟨activity, among, rfl⟩ := List.mem_map.mp new
      exact quiet activity among

theorem extend (passes : PassesOver lost journal ⟨frames, session⟩)
    (extending : session.Extends later activities)
    (stages : ∀ frame ∈ others, frame.stage.PassesOver lost) :
    PassesOver lost journal ⟨others, later⟩ :=
  passes.record extending.journal
    (fun activity member => Activity.passesOver_of_isChange (extending.changes activity member))
    stages

theorem note (passes : PassesOver lost journal ⟨frames, session⟩) {activity : Activity ε κ}
    (quiet : activity.PassesOver lost) (stages : ∀ frame ∈ others, frame.stage.PassesOver lost) :
    PassesOver lost journal ⟨others, session.record [activity]⟩ :=
  passes.record rfl (List.forall_mem_singleton.mpr quiet) stages

/-- The innermost dispatch has begun. -/
theorem enter (passes : PassesOver lost journal ⟨frames, session⟩) {running : Nat}
    {eventType : EventType} {receivers : List (Registration κ)} :
    PassesOver lost journal ⟨⟨eventType, .between, receivers⟩ :: frames,
      (session.withRunning running).record [.began eventType receivers]⟩ := by
  have held : PassesOver lost journal ⟨frames, session.withRunning running⟩ :=
    ⟨passes.frames, passes.journal⟩
  refine held.note ?_ (List.forall_mem_cons.mpr ⟨?_, passes.frames⟩) <;> trivial

theorem count (passes : PassesOver lost journal ⟨frames, session⟩) (registration : Registration κ)
    (stages : ∀ frame ∈ others, frame.stage.PassesOver lost) :
    PassesOver lost journal
      ⟨others, (Run.on (Dispatch.countInvocation registration) session).2⟩ := by
  have counted : PassesOver lost journal
      ⟨frames, { session with bus := session.bus.countInvocation registration.id }⟩ :=
    ⟨passes.frames, passes.journal⟩
  obtain ⟨activities, extending⟩ := Dispatch.extends_countInvocation registration session
  exact counted.extend extending stages

theorem top (passes : PassesOver lost journal ⟨frame :: outer, session⟩) :
    frame.stage.PassesOver lost :=
  passes.frames frame List.mem_cons_self

/-- The innermost dispatch is at another stage. -/
theorem stages (passes : PassesOver lost journal ⟨frame :: outer, session⟩)
    (stage : next.stage.PassesOver lost) :
    ∀ frame ∈ next :: outer, frame.stage.PassesOver lost :=
  List.forall_mem_cons.mpr ⟨stage, (List.forall_mem_cons.mp passes.frames).2⟩

theorem replace (passes : PassesOver lost journal ⟨frame :: outer, session⟩)
    (stage : next.stage.PassesOver lost) : PassesOver lost journal ⟨next :: outer, session⟩ :=
  ⟨passes.stages stage, passes.journal⟩

end Moment.PassesOver

/-- A move does not call the code of a registration that has ended before. -/
theorem Move.passesOver {journal : List (Entry ε κ)} {moment later : Moment σ ε κ}
    (move : Move moment later) (gone : moment.session.bus.isLive lost = false)
    (passes : moment.PassesOver lost journal) : later.PassesOver lost journal := by
  cases move with
  | operate control operation =>
    obtain ⟨activities, extending⟩ := operation.extends
    exact passes.extend extending passes.frames
  | enter control known occupied => exact passes.enter
  | accept live =>
    -- a turn begins only with what is live
    refine passes.replace ?_
    rintro rfl
    exact Bool.false_ne_true (gone.symm.trans live)
  | decline why =>
    refine passes.replace ?_
    rintro rfl
    exact why.trans (if_neg (ne_true_of_eq_false gone))
  | ask => exact passes.replace passes.top
  | answer check event holds =>
    exact passes.note passes.top (passes.stages passes.top)
  | panic check event payload =>
    exact passes.note passes.top (passes.stages (Stage.passesOver_finished passes.top _))
  | refuse | fail => exact passes.replace (Stage.passesOver_finished passes.top _)
  | expire =>
    obtain ⟨activities, extending⟩ := Session.extends_of_operations (Run.operates_revoke _ _)
    exact passes.extend extending (passes.stages (Stage.passesOver_finished passes.top _))
  | start event => exact passes.note passes.top (passes.stages passes.top)
  | count => exact passes.count _ (passes.stages (Stage.passesOver_finished passes.top _))
  | settle => exact passes.note passes.top (passes.stages trivial)
  | leave => exact ⟨(List.forall_mem_cons.mp passes.frames).2, passes.journal⟩

theorem passesOver_of_moves {session : Session σ ε κ} (accounted : session.Accounted)
    (member : lost ∈ session.enrolled) (gone : session.bus.isLive lost = false)
    {moment : Moment σ ε κ} (moves : ReflTransGen Move ⟨[], session⟩ moment) :
    moment.PassesOver lost session.journal := by
  induction moves with
  | refl =>
    refine ⟨fun _ none => absurd none List.not_mem_nil, [], (List.append_nil _).symm, ?_⟩
    exact fun _ none => absurd none List.not_mem_nil
  | tail earlier move ih =>
    refine move.passesOver (Bool.eq_false_iff.mpr fun live => ?_) ih
    have before := accounted.live_of_steps (steps_of_moves earlier) member live
    exact Bool.false_ne_true (gone.symm.trans before)

namespace Session

/-- **Receivers that are out of date do no harm.** In every session, the live registrations are
those that are stored, and the known receivers that are live are those that would be collected now.
No dispatch calls the code of a registration that has ended before, also if it does not end itself,
and each one that ends has given a turn to every receiver that was live. -/
theorem dispatch_serves_live [Event ε] {hierarchy : Hierarchy} {memory : σ}
    {session : Session σ ε κ} (reached : Reached hierarchy memory session) :
    (∀ registration ∈ session.enrolled, session.bus.isLive registration = true ↔
      ∃ eventType, registration ∈ session.bus.setOf eventType) ∧
    (∀ eventType list, session.bus.cache.get? eventType = some list →
      list.filter session.bus.isLive = session.bus.collect eventType ∧
        session.bus.Lists eventType (session.bus.collect eventType)) ∧
    ∀ (program : Program σ ε κ) (depth : Nat) (event : ε),
      (∀ lost ∈ session.enrolled, session.bus.isLive lost = false →
        ∃ frames, ReflTransGen Move ⟨[], session⟩
            ⟨frames, (Run.on (Dispatch.dispatch program depth event) session).2⟩ ∧
          Moment.PassesOver lost session.journal
            ⟨frames, (Run.on (Dispatch.dispatch program depth event) session).2⟩) ∧
      ∀ left outcome later, Run.on (Dispatch.dispatch program depth event) session =
          (some (left, outcome), later) →
        (outcome.turns.map Turn.registration).filter session.bus.isLive =
          session.bus.collect (Event.eventType event) := by
  have reliable := reliable_of_reached reached
  have accounted := accounted_of_steps reached.steps (accounted_start hierarchy memory)
  refine ⟨fun registration member => ⟨fun live => ?_, ?_⟩, fun eventType list known => ?_,
    fun program depth event => ⟨fun lost member gone => ?_, fun left outcome later ended => ?_⟩⟩
  · obtain ⟨eventType, other, stored, same⟩ := (reliable.live_iff _).mp live
    obtain rfl := accounted.eq_of_id (accounted.stored stored) member same
    exact ⟨eventType, stored⟩
  · rintro ⟨eventType, stored⟩
    exact reliable.toSound.isLive_of_mem stored
  · exact ⟨reliable.filter_isLive known,
      reliable.toSound.lists_collect (reliable.known known).declared⟩
  · obtain ⟨frames, -, moves⟩ :=
      Dispatch.controlled_dispatch program depth inControl_nil event session
    exact ⟨frames, moves, passesOver_of_moves accounted member gone moves⟩
  · rw [Dispatch.turns_of_dispatch program ended]
    exact reliable.filter_isLive_receivers _

end Session

/-! ### A predicate that panics when the sets are visited from the last to the first -/

namespace Backwards

open Halfway (hierarchy)
open Interrupted (program signal)

/-- It matches the second registration and panics at the first. -/
def selector : Bus.Selector Unit := fun registration _ =>
  if registration.id = 2 then .ok true else .error .other

/-- The set that came last is visited first. -/
def order : Bus.SetOrder where
  arrange := List.reverse
  perm := List.reverse_perm

/-- Two registrations, one for each type, a dispatch after which their list is known, and the panic.
In the order in which the sets came, it would come before anything was taken away. -/
def script : Script (Request Unit Signal Unit) Request.Answer Unit :=
  .ask (.subscribeTo ⟨"base"⟩ (.ofHandler ())) fun _ =>
    .ask (.subscribeTo ⟨"part"⟩ (.ofHandler ())) fun _ =>
      .ask (.dispatch { eventType := ⟨"part"⟩ }) fun _ =>
        .ask (.unsubscribeIf selector order) fun _ => .done ()

def session : Session Unit Signal Unit :=
  (Session.play program 1 hierarchy () script).2

def kept : Registration Unit :=
  ⟨1, ⟨"base"⟩, .ofHandler ()⟩

/-- The receiver that was taken away before the panic. -/
def removed : Registration Unit :=
  ⟨2, ⟨"part"⟩, .ofHandler ()⟩

/-- What comes of the next dispatch: one of the two receivers is gone. -/
def outcome : Outcome Unit where
  eventType := ⟨"part"⟩
  turns := [⟨kept, .invoked⟩, ⟨removed, .gone⟩]

/-- The list is out of date: it holds the registration that was taken away. The next dispatch does
not call its handler, and of those that are live it serves the one that is left. -/
theorem outdated_backwards :
    session.bus.cache.get? ⟨"part"⟩ = some [kept, removed] ∧
      session.bus.isLive removed = false ∧ session.bus.collect ⟨"part"⟩ = [kept] ∧
      (∃ added, (Run.on (Dispatch.dispatch program 1 signal) session).2.journal =
        session.journal ++ added ∧ ∀ entry ∈ added, entry.activity.PassesOver removed) ∧
      (outcome.turns.map Turn.registration).filter session.bus.isLive = [kept] := by
  have reached : Session.Reached hierarchy () session := ⟨program, 1, script, rfl⟩
  have ended : Run.on (Dispatch.dispatch program 1 signal) session =
      (some (signal, outcome), (Run.on (Dispatch.dispatch program 1 signal) session).2) :=
    Prod.ext (by cbv) rfl
  obtain ⟨-, known, serves⟩ := Session.dispatch_serves_live reached
  obtain ⟨passes, turns⟩ := serves program 1 signal
  have enrolled : session.enrolled = [kept, removed] := by cbv
  have cached : session.bus.cache.get? ⟨"part"⟩ = some [kept, removed] := by cbv
  have gone : session.bus.isLive removed = false := by cbv
  have left : session.bus.isLive kept = true := by cbv
  have collected : session.bus.collect ⟨"part"⟩ = [kept] := by
    rw [← (known _ _ cached).1, List.filter_cons_of_pos left,
      List.filter_cons_of_neg (Bool.eq_false_iff.mp gone), List.filter_nil]
  have member : removed ∈ session.enrolled := enrolled ▸ List.mem_cons_of_mem _ List.mem_cons_self
  obtain ⟨frames, -, passed⟩ := passes removed member gone
  exact ⟨cached, gone, collected, passed.journal, (turns _ _ _ ended).trans collected⟩

end Backwards

end ExtensionHost
