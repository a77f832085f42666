/-
**Every registration leaves the bus at most once, and each departure is accounted for.**

A registration is revoked by its handle, by code of any kind or by the dispatch itself, or it is
taken away by a predicate.

* `Session.revocations`, `Session.sweptTotal`: the departures of both kinds, as the log and the
  answers report them.
* `Activity.Balanced`, `Step.balanced`: what the journal says of departures adds up.
* `Step.departs`, `ended_once_of_steps`: no registration ends twice.
* `Accounted.perm`: those that were made are stored, or they have ended.
* `Accounted.isActive_iff`: a handle is active from the time when its registration is made until
  that ends.
* `Run.Idles`: once nobody holds the bus, no code changes anything about it any more.
* `departures_of_reached`: all this holds of every session.
-/

import ExtensionHost.Proofs.Bus.Answers

namespace ExtensionHost

open Relation (ReflTransGen)

variable {σ ε κ α β : Type}

/-! ### What is reported -/

/-- Whether a notice says that a registration was revoked. -/
def Notice.isRevocation : Notice → Bool
  | subscriptionRevoked _ _ _ => true
  | _ => false

namespace Activity

/-- The number that was answered when registrations were taken away by a predicate. -/
def swept? : Activity ε κ → Option Nat
  | swept count => some count
  | _ => none

/-- As many registrations end as are reported. -/
def Balanced (activities : List (Activity ε κ)) : Prop :=
  (activities.filterMap ended?).length =
    (activities.filterMap notice?).countP Notice.isRevocation + (activities.filterMap swept?).sum

theorem Balanced.append {first second : List (Activity ε κ)} (early : Balanced first)
    (late : Balanced second) : Balanced (first ++ second) := by
  unfold Balanced at early late ⊢
  simp only [List.filterMap_append, List.length_append, List.countP_append, List.sum_append]
  omega

theorem balanced_of_plain {activity : Activity ε κ} (plain : activity.isChange = false) :
    Balanced [activity] := by
  cases activity with
  | settled eventType turn =>
    unfold Balanced
    rcases turn with ⟨registration, _ | _ | _ | _ | _ | failure⟩ <;> rfl
  | began | tested | handling => rfl
  | _ => cases plain

theorem balanced_ofSweep {sweep : Bus.Sweep κ} (calm : sweep.panic = none) :
    Balanced (ofSweep sweep : List (Activity ε κ)) := by
  have silent : ∀ {value : Type} (view : Activity ε κ → Option value),
      (∀ registration, view (removed registration) = none) →
        (sweep.removed.map removed).filterMap view = [] := by
    intro value view unseen
    rw [List.filterMap_map, List.filterMap_eq_nil_iff]
    exact fun registration _ => unseen registration
  unfold Balanced
  rw [filterMap_ended?_ofSweep]
  unfold ofSweep
  rw [calm, List.filterMap_append, List.filterMap_append, silent notice? fun _ => rfl,
    silent swept? fun _ => rfl]
  cases sweep.removed with
  | nil => rfl
  | cons first rest => exact (Nat.zero_add _).symm

theorem balanced_collecting (bus : Bus κ) (eventType : EventType) :
    Balanced (Run.collecting bus eventType : List (Activity ε κ)) := by
  unfold Run.collecting
  split <;> rfl

end Activity

namespace Session

/-- How many revocations were logged. -/
def revocations (session : Session σ ε κ) : Nat :=
  (session.journal.filterMap (·.activity.notice?)).countP Notice.isRevocation

/-- The sum of what was answered to those who had registrations taken away by a predicate. -/
def sweptTotal (session : Session σ ε κ) : Nat :=
  (session.journal.filterMap (·.activity.swept?)).sum

/-- Everything that has happened, in order. -/
def activities (session : Session σ ε κ) : List (Activity ε κ) :=
  session.journal.map Entry.activity

theorem activities_record (session : Session σ ε κ) (added : List (Activity ε κ)) :
    (session.record added).activities = session.activities ++ added := by
  simp [activities, record, Function.comp_def]

theorem length_ended {session : Session σ ε κ} (balanced : Activity.Balanced session.activities) :
    session.ended.length = session.revocations + session.sweptTotal := by
  unfold activities Activity.Balanced at balanced
  simp only [List.filterMap_map] at balanced
  exact balanced

theorem Step.balanced {session later : Session σ ε κ} (step : Step session later)
    (undisturbed : later.Undisturbed) (balanced : Activity.Balanced session.activities) :
    Activity.Balanced later.activities := by
  cases step with
  | remember | hold | count => exact balanced
  | enrol accepted =>
    rw [activities_record]
    exact balanced.append rfl
  | revoke found =>
    rw [activities_record]
    exact balanced.append rfl
  | sweep selector order =>
    rw [activities_record]
    exact balanced.append
      (Activity.balanced_ofSweep (panic_eq_none_of_undisturbed undisturbed))
  | collect eventType =>
    rw [activities_record]
    exact balanced.append (Activity.balanced_collecting _ _)
  | note activity plain =>
    rw [activities_record]
    exact balanced.append (Activity.balanced_of_plain plain)

theorem balanced_of_steps {session later : Session σ ε κ}
    (steps : ReflTransGen Step session later) (undisturbed : later.Undisturbed)
    (balanced : Activity.Balanced session.activities) : Activity.Balanced later.activities := by
  induction steps with
  | refl => exact balanced
  | tail _ step ih => exact step.balanced undisturbed (ih (undisturbed.before (.single step)))

end Session

/-! ### No registration ends twice -/

namespace Session

/-- What has ended since was stored before, each registration once. -/
def Departs (session later : Session σ ε κ) : Prop :=
  ∃ withdrawn : List (Registration κ), later.ended = session.ended ++ withdrawn ∧
    (withdrawn.map Registration.id).Nodup ∧
    ∀ registration ∈ withdrawn, ∃ eventType, registration ∈ session.bus.setOf eventType

theorem departs_of_eq {session later : Session σ ε κ} (same : later.ended = session.ended) :
    session.Departs later := by
  refine ⟨[], ?_, List.nodup_nil, fun _ none => absurd none List.not_mem_nil⟩
  rw [same, List.append_nil]

theorem Step.departs {session later : Session σ ε κ} (step : Step session later)
    (sound : session.bus.Sound) : session.Departs later := by
  cases step with
  | remember | hold | count => exact departs_of_eq rfl
  | enrol accepted => exact departs_of_eq (ended_record_of_none rfl)
  | @revoke subscription registration bus found =>
    obtain ⟨present, -⟩ := Bus.revoke?_eq_some found
    refine ⟨[registration], ended_record _ _, List.nodup_singleton _, fun other member => ?_⟩
    rw [List.mem_singleton.mp member]
    exact ⟨_, (Bus.mem_of_find? present).1⟩
  | sweep selector order =>
    refine ⟨(session.bus.sweep selector order).removed, ?_, ?_, fun _ => Bus.stored_of_removed⟩
    · rw [ended_record, Activity.filterMap_ended?_ofSweep]
      rfl
    · exact (sound.nodup_visited order).sublist ((session.bus.select_sublist selector _).map _)
  | collect eventType =>
    refine departs_of_eq (ended_record_of_none ?_)
    unfold Run.collecting
    split <;> rfl
  | note activity plain =>
    have silent := List.filterMap_cons_none (l := []) (Activity.ended?_of_plain plain)
    exact departs_of_eq (ended_record_of_none silent)

namespace Accounted

variable {session : Session σ ε κ}

/-- A registration is stored until it ends. -/
theorem stored_iff (accounted : session.Accounted) {registration : Registration κ}
    (member : registration ∈ session.enrolled) :
    (∃ eventType, registration ∈ session.bus.setOf eventType) ↔ registration ∉ session.ended := by
  rw [← accounted.live_iff registration member, accounted.sound.live_iff]
  constructor
  · rintro ⟨eventType, stored⟩
    exact ⟨eventType, registration, stored, rfl⟩
  · rintro ⟨eventType, other, stored, same⟩
    obtain rfl := accounted.eq_of_id (accounted.stored stored) member same
    exact ⟨eventType, stored⟩

theorem ended_once (accounted : session.Accounted) {later : Session σ ε κ}
    (departs : session.Departs later) (once : (session.ended.map Registration.id).Nodup) :
    (later.ended.map Registration.id).Nodup := by
  obtain ⟨withdrawn, ended, distinct, were_stored⟩ := departs
  rw [ended, List.map_append]
  refine once.append distinct ?_
  rintro id before now
  obtain ⟨old, among, rfl⟩ := List.mem_map.mp before
  obtain ⟨new, leaving, same⟩ := List.mem_map.mp now
  obtain ⟨eventType, stored⟩ := were_stored new leaving
  have member := accounted.stored stored
  obtain rfl := accounted.eq_of_id (accounted.ended_enrolled old among) member same.symm
  exact (accounted.stored_iff member).mp ⟨eventType, stored⟩ among

/-- Those that were made are stored, or they have ended. -/
theorem perm (accounted : session.Accounted) (once : (session.ended.map Registration.id).Nodup) :
    session.enrolled.Perm (session.bus.registrations ++ session.ended) := by
  have made : session.enrolled.Nodup :=
    accounted.increasing.imp fun below same => Nat.ne_of_lt below (congrArg _ same)
  have stored : session.bus.registrations.Nodup :=
    .of_map _ (Registration.nodup_ids accounted.sound.increasing_registrations)
  have apart : session.bus.registrations.Disjoint session.ended := by
    intro registration present
    obtain ⟨eventType, stands⟩ := Bus.mem_registrations.mp present
    exact (accounted.stored_iff (accounted.stored stands)).mp ⟨eventType, stands⟩
  rw [List.perm_ext_iff_of_nodup made (stored.append (.of_map _ once) apart)]
  intro registration
  rw [List.mem_append, Bus.mem_registrations]
  constructor
  · intro member
    by_cases gone : registration ∈ session.ended
    · exact .inr gone
    · exact .inl ((accounted.stored_iff member).mpr gone)
  · rintro (⟨eventType, stands⟩ | gone)
    · exact accounted.stored stands
    · exact accounted.ended_enrolled registration gone

/-- A handle is active while its registration is on a bus in use. -/
theorem isActive_iff (accounted : session.Accounted) (subscription : Subscription) :
    session.bus.isActive subscription = true ↔ session.bus.isAlive = true ∧
      ∃ registration ∈ session.enrolled, registration.subscription = subscription ∧
        registration ∉ session.ended := by
  unfold Bus.isActive
  constructor
  · intro active
    obtain ⟨registration, found⟩ := Option.isSome_iff_exists.mp active
    obtain ⟨stored, same⟩ := Bus.mem_of_find? found
    have member := accounted.stored stored
    refine ⟨?_, registration, member, ?_, (accounted.stored_iff member).mp ⟨_, stored⟩⟩
    · rw [← Bool.not_eq_false]
      intro void
      rw [Bus.find?, void, if_neg Bool.false_ne_true] at found
      cases found
    · unfold Registration.subscription
      rw [accounted.sound.typed stored, same]
  · rintro ⟨alive, registration, member, rfl, kept⟩
    rw [accounted.find?_eq alive member, if_pos ((accounted.live_iff _ member).mpr kept)]
    rfl

end Accounted

theorem ended_once_of_steps {session later : Session σ ε κ}
    (steps : ReflTransGen Step session later) (accounted : session.Accounted)
    (once : (session.ended.map Registration.id).Nodup) :
    (later.ended.map Registration.id).Nodup := by
  induction steps with
  | refl => exact once
  | tail earlier step ih =>
    have known := accounted_of_steps earlier accounted
    exact known.ended_once (step.departs known.sound) ih

end Session

theorem Run.answer_revoke (subscription : Subscription) (session : Session σ ε κ) :
    (on (revoke subscription) session).1 = some (session.bus.isActive subscription) := by
  rw [on_revoke, Bus.revoke?, Bus.isActive]
  cases session.bus.find? subscription <;> rfl

/-! ### After the last handle -/

theorem Bus.unheld_of_void {bus : Bus κ} (void : bus.isAlive = false) : ¬ 0 < bus.handles := by
  simp only [isAlive, Bool.or_eq_false_iff, decide_eq_false_iff_not] at void
  exact void.1

/-- A computation that does nothing to a bus that nobody holds. -/
def Run.Idles (run : Run σ ε κ α) : Prop :=
  ∀ session, session.bus.isAlive = false → (on run session).2.bus = session.bus

namespace Run

theorem idles_pure (value : α) : Idles (pure value : Run σ ε κ α) :=
  fun _ _ => rfl

theorem Idles.bind {run : Run σ ε κ α} {next : α → Run σ ε κ β} (first : Idles run)
    (others : ∀ value, Idles (next value)) : Idles (run >>= next) := by
  intro session void
  have same := first session void
  rw [on_bind]
  generalize on run session = outcome at same
  rcases outcome with ⟨_ | value, middle⟩
  · exact same
  · rw [← same] at void
    exact (others value middle void).trans same

theorem idles_withHandle (action : Run σ ε κ α) : Idles (withHandle action) := by
  intro session void
  unfold withHandle
  rw [on_bind, on_bus]
  dsimp only
  rw [if_neg (Bus.unheld_of_void void)]
  rfl

theorem on_revoke_of_void {session : Session σ ε κ} (void : session.bus.isAlive = false)
    (subscription : Subscription) : on (revoke subscription) session = (some false, session) := by
  have absent : session.bus.revoke? subscription = none := by
    rw [Bus.revoke?, Bus.find?, void, if_neg Bool.false_ne_true]
    rfl
  rw [on_revoke, absent]

theorem idles_script {R : Type} {Answer : R → Type}
    {perform : (request : R) → Run σ ε κ (Answer request)}
    (each : ∀ request, Idles (perform request)) (script : Script R Answer α) :
    Idles (script.run perform) := by
  induction script with
  | done value => exact idles_pure _
  | panic payload => exact idles_pure _
  | ask request next ih => exact (each request).bind ih

end Run

theorem Dispatch.idles_perform (nested : ε → Run σ ε κ (ε × Outcome κ))
    (request : Request σ ε κ) : Run.Idles (perform nested request) := by
  cases request with
  | memory | remember | isActive | halt => exact fun _ _ => rfl
  | subscribe | subscribeTo | unsubscribeIf | dispatch | isSubscribed | subscriberCount =>
    exact Run.idles_withHandle _
  | revoke subscription =>
    intro session void
    exact congrArg (·.2.bus) (Run.on_revoke_of_void void subscription)
  | retain =>
    intro session void
    show (Run.on Run.retain session).2.bus = session.bus
    rw [Run.on_retain, if_neg (Bus.unheld_of_void void)]
  | release =>
    intro session void
    show (Run.on Run.release session).2.bus = session.bus
    rw [Run.on_release, if_neg (Bus.unheld_of_void void)]

/-- No handle is active, and none can revoke anything. -/
def Session.AllVoid (session : Session σ ε κ) : Prop :=
  ∀ subscription, session.bus.isActive subscription = false ∧
    Run.on (Run.revoke subscription) session = (some false, session)

theorem Session.allVoid {session : Session σ ε κ} (void : session.bus.isAlive = false) :
    session.AllVoid := by
  refine fun subscription => ⟨?_, Run.on_revoke_of_void void subscription⟩
  rw [Bus.isActive, Bus.find?, void, if_neg Bool.false_ne_true]
  rfl

/-! ### The balance -/

namespace Session

/-- **Every registration leaves the bus at most once, and each departure is accounted for**, in every
session.

* As long as no predicate on registrations has panicked, the registrations that were made are as
  many as those that are stored, the revocations that were logged, and those that were reported to
  be taken away by predicates, together.
* No registration ends twice, whether it is revoked or taken away.
* A handle is active from the time when its registration is made until that ends, while someone
  holds the bus or a dispatch runs. To revoke it answers whether it was active.
* What has been made and has ended is what the answers say.
* Once nobody holds the bus and no dispatch runs, every handle is void for good. -/
theorem departures_of_reached [Event ε] {hierarchy : Hierarchy} {memory : σ}
    {session : Session σ ε κ} (reached : Reached hierarchy memory session) :
    (session.Undisturbed → session.enrolled.length =
      session.bus.registrations.length + session.revocations + session.sweptTotal) ∧
    (session.ended.map Registration.id).Nodup ∧
    (∀ subscription, (session.bus.isActive subscription = true ↔ session.bus.isAlive = true ∧
        ∃ registration ∈ session.enrolled, registration.subscription = subscription ∧
          registration ∉ session.ended) ∧
      (Run.on (Run.revoke subscription) session).1 = some (session.bus.isActive subscription)) ∧
    (∀ (nested : ε → Run σ ε κ (ε × Outcome κ)) (request : Request σ ε κ)
      (answer : request.Answer) (later : Session σ ε κ),
      Run.on (Dispatch.perform nested request) session = (some answer, later) →
        session.Records later request answer) ∧
    (session.bus.isAlive = false → ∀ (program : Program σ ε κ) (depth : Nat)
      (script : Script (Request σ ε κ) Request.Answer Unit),
      (Run.on (script.run (Dispatch.request program depth)) session).2.AllVoid) := by
  have fresh := accounted_start (ε := ε) (κ := κ) hierarchy memory
  have accounted := accounted_of_steps reached.steps fresh
  have once := ended_once_of_steps reached.steps fresh List.nodup_nil
  refine ⟨fun undisturbed => ?_, once,
    fun subscription => ⟨accounted.isActive_iff subscription, Run.answer_revoke subscription _⟩,
    fun nested request answer later performed => ?_, fun void program depth script => ?_⟩
  · have balanced := balanced_of_steps reached.steps undisturbed rfl
    rw [(accounted.perm once).length_eq, List.length_append, length_ended balanced, Nat.add_assoc]
  · exact Dispatch.records_perform accounted.sound request answer performed
  · have same := Run.idles_script (Dispatch.idles_perform (Dispatch.dispatch program depth)) script
      session void
    exact allVoid ((congrArg Bus.isAlive same).trans void)

end Session

/-! ### All ways to leave -/

namespace Leaving

def hierarchy : Hierarchy :=
  .ofDeclared (.singleton ⟨"part"⟩ [])

/-- Every predicate holds; one handler revokes itself, and the other one does nothing. -/
def program : Program Unit Signal Bool where
  test _ _ := .done true
  handle quits subscription _ :=
    if quits then .ask (.plain (.revoke subscription)) fun _ => .done (.ok ()) else .done (.ok ())

/-- The registration that is still there in the end. -/
def last : Registration Bool :=
  ⟨5, ⟨"part"⟩, .ofHandler false⟩

/-- Five registrations. A dispatch ends the first by its handler, the second by its limit and the
third by its predicate; the fourth is taken away, and the first cannot be revoked again. -/
def requests : List (Request Unit Signal Bool) :=
  [.subscribeTo ⟨"part"⟩ (.ofHandler true),
    .subscribeTo ⟨"part"⟩ { Subscriber.ofHandler false with limit := Limit.ofNat? 1 },
    .subscribeTo ⟨"part"⟩ { Subscriber.ofHandler false with expireWhen := some true },
    .subscribeTo ⟨"part"⟩ (.ofHandler false), .subscribeTo ⟨"part"⟩ last.subscriber,
    .dispatch { eventType := ⟨"part"⟩ },
    .unsubscribeIf fun registration _ => .ok (registration.id = 4), .revoke ⟨⟨"part"⟩, 1⟩]

/-- The requests and some more, one after the other. -/
def script (others : List (Request Unit Signal Bool)) :
    Script (Request Unit Signal Bool) Request.Answer Unit :=
  (requests ++ others).foldr (fun request next => .ask request fun _ => next) (.done ())

def session (others : List (Request Unit Signal Bool)) : Session Unit Signal Bool :=
  (Session.play program 1 hierarchy () (script others)).2

theorem reached (others : List (Request Unit Signal Bool)) :
    Session.Reached hierarchy () (session others) :=
  ⟨program, 1, script others, rfl⟩

/-- Of the five one is left, which is active until the only handle to the bus is given up. After
that no code can do anything. -/
theorem departures_leaving : (session []).revocations = 3 ∧ (session []).sweptTotal = 1 ∧
    (session []).bus.registrations.length = 1 ∧
    (session []).bus.isActive last.subscription = true ∧
    ∀ next : Script (Request Unit Signal Bool) Request.Answer Unit,
      (Run.on (next.run (Dispatch.request program 1)) (session [.release])).2.AllVoid := by
  obtain ⟨undisturbed, alive, made, gone, revoked, swept⟩ : (session []).Undisturbed ∧
      (session []).bus.isAlive = true ∧ (session []).enrolled.length = 5 ∧
      (session []).ended.map Registration.id = [1, 2, 3, 4] ∧
      (session []).revocations = 3 ∧ (session []).sweptTotal = 1 := of_decide_eq_true (by cbv)
  have present : last ∈ (session []).enrolled :=
    List.mem_of_getElem? (i := 4) (show (session []).enrolled[4]? = some last by cbv)
  have given_up : (session [.release]).bus.isAlive = false := by cbv
  obtain ⟨balance, -, active, -, -⟩ := Session.departures_of_reached (reached [])
  obtain ⟨-, -, -, -, void⟩ := Session.departures_of_reached (reached [.release])
  have sum := balance undisturbed
  rw [made, revoked, swept] at sum
  refine ⟨revoked, swept, by omega, (active _).1.mpr ?_, void given_up program 1⟩
  refine ⟨alive, last, present, rfl, fun ended => ?_⟩
  have number : last.id ∈ [1, 2, 3, 4] := gone ▸ List.mem_map_of_mem ended
  exact absurd number (by decide)

end Leaving

end ExtensionHost
