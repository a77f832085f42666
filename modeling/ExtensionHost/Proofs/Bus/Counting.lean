/-
**What a dispatch reports adds up to what the bus counts.**

* `Outcome.total`: every turn is an invocation, a skip or an error, and only one of them.
* `turns_of_dispatch`: the turns are those of the receivers that are known when a dispatch begins.
* `Bus.Reliable`: among the receivers that are known, the live ones are the right ones. Every
  session has such a bus, also after a predicate on registrations has panicked.
* `Bus.overdue`: the known receivers whose registrations have ended.
* `total_of_dispatch`: the report of a dispatch adds up to the count and those that are overdue,
  and nothing is overdue unless a predicate on registrations has panicked.
-/

import ExtensionHost.Proofs.Bus.Coherence

namespace ExtensionHost

open Relation (ReflTransGen)

variable {σ ε κ α β : Type}

/-! ### Outcomes -/

/-- How many receivers an outcome accounts for. -/
def Outcome.total (outcome : Outcome κ) : Nat :=
  outcome.invoked + outcome.skipped + outcome.errors.length

theorem Outcome.total_eq (outcome : Outcome κ) : outcome.total = outcome.turns.length := by
  obtain ⟨eventType, turns⟩ := outcome
  unfold total invoked skipped errors
  rw [List.length_filterMap_eq_countP]
  induction turns with
  | nil => rfl
  | cons turn rest ih =>
    simp only [List.countP_cons, List.length_cons, ← ih]
    cases turn.verdict <;> simp [Verdict.isSkip, Verdict.failure?] <;> omega

/-! ### Turns -/

namespace Run

/-- Wherever the computation ends, its value has the property. -/
def Yields (run : Run σ ε κ α) (property : α → Prop) : Prop :=
  ∀ session, ∀ value ∈ (on run session).1, property value

theorem yields_pure {value : α} {property : α → Prop} (holds : property value) :
    Yields (pure value : Run σ ε κ α) property := by
  intro session other found
  cases found
  exact holds

theorem Yields.bind {run : Run σ ε κ α} {next : α → Run σ ε κ β} {property : α → Prop}
    {result : β → Prop} (first : Yields run property)
    (others : ∀ value, property value → Yields (next value) result) :
    Yields (run >>= next) result := by
  intro session other found
  have known := first session
  rw [on_bind] at found
  generalize on run session = outcome at known found
  rcases outcome with ⟨_ | value, middle⟩
  · cases found
  · exact others value (known value rfl) middle other found

theorem property_of_ended {run : Run σ ε κ α} (property : α → Prop) {value : α}
    {session later : Session σ ε κ} (ended : on run session = (some value, later))
    (yields : Yields run property) : property value :=
  yields session value (congrArg Prod.fst ended)

theorem yields_any (run : Run σ ε κ α) : Yields run fun _ => True :=
  fun _ _ _ => trivial

end Run

namespace Dispatch

open Run

variable [Event ε] (program : Program σ ε κ) (nested : ε → Run σ ε κ (ε × Outcome κ))

theorem yields_turn (eventType : EventType) (registration : Registration κ) (event : ε) :
    Yields (turn program nested eventType registration event)
      fun result => result.1.registration = registration :=
  (yields_any _).bind fun _ _ => (yields_any _).bind fun _ _ => yields_pure rfl

theorem yields_turns (eventType : EventType) (receivers : List (Registration κ)) (event : ε) :
    Yields (turns program nested eventType receivers event)
      fun result => result.1.map Turn.registration = receivers := by
  induction receivers generalizing event with
  | nil => exact yields_pure rfl
  | cons registration rest ih =>
    refine (yields_turn program nested eventType registration event).bind fun first own => ?_
    refine (ih first.2).bind fun others following => yields_pure ?_
    rw [List.map_cons, own, following]

/-- A dispatch gives one turn to each of the receivers that are known when it begins. -/
theorem turns_of_dispatch {depth : Nat} {event left : ε} {outcome : Outcome κ}
    {session later : Session σ ε κ}
    (ended : on (dispatch program depth event) session = (some (left, outcome), later)) :
    outcome.turns.map Turn.registration =
      (session.bus.receivers (Event.eventType event)).list := by
  cases depth with
  | zero => cases ended
  | succ depth =>
    unfold dispatch dispatchWith at ended
    rw [on_bind, on_receivers] at ended
    dsimp only at ended
    generalize (session.bus.receivers (Event.eventType event)).list = receivers at ended ⊢
    split at ended
    · rename_i empty
      cases ended
      exact (List.isEmpty_iff.mp empty).symm
    · refine property_of_ended (fun result => result.2.turns.map Turn.registration = receivers)
        ended ?_
      refine (yields_any _).bind fun _ _ => (yields_any _).bind fun _ _ => ?_
      refine (yields_turns program _ _ receivers event).bind fun result same => ?_
      exact (yields_any _).bind fun _ _ => yields_pure same

end Dispatch

/-! ### Receivers that are known -/

namespace Bus

/-- Whether a registration still receives events. -/
def isLive (bus : Bus κ) (registration : Registration κ) : Bool :=
  (bus.standing registration.id).live

/-- How many of the receivers that a dispatch would find have ended. -/
def overdue (bus : Bus κ) (eventType : EventType) : Nat :=
  (bus.receivers eventType).list.countP fun registration => !bus.isLive registration

/-- The bus is sound, and the live ones among the receivers that it knows are the right ones. -/
structure Reliable (bus : Bus κ) : Prop extends Sound bus where
  known : ∀ {eventType list}, bus.cache.get? eventType = some list →
    bus.Lists eventType (list.filter bus.isLive)

variable {bus later : Bus κ}

theorem Sound.isLive_of_mem (sound : bus.Sound) {eventType : EventType}
    {registration : Registration κ} (member : registration ∈ bus.setOf eventType) :
    bus.isLive registration = true :=
  (sound.live_iff _).mpr ⟨eventType, registration, member, rfl⟩

theorem Lists.filter_isLive {eventType : EventType} {list : List (Registration κ)}
    (lists : bus.Lists eventType list) (sound : bus.Sound) :
    list.filter bus.isLive = list := by
  rw [List.filter_eq_self]
  intro registration member
  obtain ⟨ancestor, -, stored⟩ := (lists.mem_iff registration).mp member
  exact sound.isLive_of_mem stored

theorem Lists.length_eq {eventType : EventType} {list : List (Registration κ)}
    (lists : bus.Lists eventType list) (sound : bus.Sound) :
    list.length = bus.subscriberCount eventType := by
  have once : list.Nodup := by
    refine lists.increasing.imp fun before same => ?_
    subst same
    exact irrefl _ before
  exact sound.length_eq_subscriberCount once lists.mem_iff

theorem Lists.of_loses {eventType : EventType} {list : List (Registration κ)}
    {gone : Nat → Bool} (lists : bus.Lists eventType list) (loses : bus.Loses gone later) :
    later.Lists eventType (list.filter (!gone ·.id)) where
  declared := by
    rw [loses.hierarchy]
    exact lists.declared
  mem_iff registration := by
    rw [List.mem_filter, lists.mem_iff, loses.hierarchy, Bool.not_eq_true']
    constructor
    · rintro ⟨⟨ancestor, above, stored⟩, stays⟩
      exact ⟨ancestor, above, loses.mem_setOf.mpr ⟨stored, stays⟩⟩
    · rintro ⟨ancestor, above, member⟩
      obtain ⟨stored, stays⟩ := loses.mem_setOf.mp member
      exact ⟨⟨ancestor, above, stored⟩, stays⟩
  increasing := lists.increasing.filter _

theorem Loses.isLive_eq {gone : Nat → Bool} (loses : bus.Loses gone later)
    (registration : Registration κ) :
    later.isLive registration = (!gone registration.id && bus.isLive registration) := by
  unfold isLive
  rw [loses.standing]
  cases gone registration.id <;> rfl

/-! ### What operations preserve -/

theorem Coherent.reliable (coherent : bus.Coherent) : bus.Reliable where
  toSound := coherent.toSound
  known stored := by
    have lists := coherent.known stored
    rw [lists.filter_isLive coherent.toSound]
    exact lists

/-- A bus that knows no receivers is reliable as soon as it is sound. -/
theorem Sound.reliable (sound : bus.Sound) (unknown : bus.cache = ∅) : bus.Reliable where
  toSound := sound
  known stored := by
    rw [unknown] at stored
    cases stored

theorem Reliable.congr (reliable : bus.Reliable) (hierarchy : later.hierarchy = bus.hierarchy)
    (nextId : later.nextId = bus.nextId) (cache : later.cache = bus.cache)
    (setOf : ∀ eventType, later.setOf eventType = bus.setOf eventType)
    (live : ∀ id, (later.standing id).live = (bus.standing id).live) : later.Reliable where
  toSound := reliable.toSound.congr hierarchy nextId setOf live
  known stored := by
    have same : later.isLive = bus.isLive := funext fun registration => live registration.id
    rw [cache] at stored
    rw [same]
    exact (reliable.known stored).congr hierarchy setOf

/-- Old lists may be kept when registrations are taken away: those are no longer live. -/
theorem Reliable.of_sweep (reliable : bus.Reliable) (selector : Selector κ) (order : SetOrder) :
    (bus.sweep selector order).bus.Reliable := by
  have loses := bus.loses_sweep selector order
  have sound := reliable.toSound.of_loses loses
  rcases bus.cache_sweep selector order with unknown | kept
  · exact sound.reliable unknown
  · refine ⟨sound, fun {eventType list} stored => ?_⟩
    rw [kept] at stored
    have left := (reliable.known stored).of_loses loses
    rw [List.filter_filter] at left
    rwa [funext loses.isLive_eq]

theorem Reliable.of_receivers (reliable : bus.Reliable) (eventType : EventType) :
    (bus.receivers eventType).bus.Reliable := by
  unfold receivers
  split
  · rename_i declared
    split
    · exact reliable
    · refine ⟨reliable.toSound.congr rfl rfl (fun _ => rfl) fun _ => rfl, ?_⟩
      intro other list stored
      replace stored := (Table.get?_insert bus.cache _ _ _).symm.trans stored
      split at stored
      · rename_i same
        have lists := reliable.toSound.lists_collect declared
        rw [same, ← Option.some.inj stored]
        exact (lists.filter_isLive reliable.toSound).symm ▸ lists.congr rfl fun _ => rfl
      · exact (reliable.known stored).congr rfl fun _ => rfl
  · exact reliable

/-! ### Counting receivers -/

theorem subscriberCount_of_undeclared (sound : bus.Sound) {eventType : EventType}
    (undeclared : bus.hierarchy.contains eventType = false) :
    bus.subscriberCount eventType = 0 := by
  have empty : bus.setOf eventType = [] := List.eq_nil_iff_forall_not_mem.mpr fun _ member =>
    Bool.false_ne_true (undeclared.symm.trans (sound.declared member))
  unfold subscriberCount
  rw [Hierarchy.lineage_of_undeclared undeclared, List.map_singleton, empty]
  rfl

theorem Reliable.lists_receivers (reliable : bus.Reliable) {eventType : EventType}
    (declared : bus.hierarchy.contains eventType = true) :
    bus.Lists eventType ((bus.receivers eventType).list.filter bus.isLive) := by
  unfold receivers
  rw [if_pos declared]
  split
  · rename_i list stored
    exact reliable.known stored
  · have lists := reliable.toSound.lists_collect declared
    rw [lists.filter_isLive reliable.toSound]
    exact lists

/-- A dispatch finds the receivers that are counted, and those that are overdue. -/
theorem Reliable.length_receivers (reliable : bus.Reliable) (eventType : EventType) :
    (bus.receivers eventType).list.length =
      bus.subscriberCount eventType + bus.overdue eventType := by
  by_cases declared : bus.hierarchy.contains eventType = true
  · have live := (reliable.lists_receivers declared).length_eq reliable.toSound
    rw [← live, ← List.countP_eq_length_filter]
    unfold overdue
    simpa using List.length_eq_countP_add_countP bus.isLive
  · have undeclared := Bool.eq_false_iff.mpr declared
    unfold overdue
    rw [receivers_of_undeclared declared,
      subscriberCount_of_undeclared reliable.toSound undeclared]
    rfl

theorem Coherent.overdue_eq_zero (coherent : bus.Coherent) (eventType : EventType) :
    bus.overdue eventType = 0 := by
  unfold overdue
  rw [List.countP_eq_zero]
  intro registration member ended
  by_cases declared : bus.hierarchy.contains eventType = true
  · have lists := coherent.lists_receivers declared
    obtain ⟨ancestor, -, stored⟩ := (lists.mem_iff registration).mp member
    rw [coherent.toSound.isLive_of_mem stored] at ended
    exact Bool.false_ne_true ended
  · rw [receivers_of_undeclared declared] at member
    exact absurd member List.not_mem_nil

end Bus

/-! ### All sessions -/

namespace Session

theorem Step.reliable {session later : Session σ ε κ} (step : Step session later)
    (reliable : session.bus.Reliable) : later.bus.Reliable := by
  have sound := step.sound reliable.toSound
  cases step with
  | remember memory => exact reliable
  | enrol accepted => exact sound.reliable (Bus.gains_of_subscribeTo accepted).2.cache
  | revoke found =>
    refine sound.reliable ?_
    obtain ⟨-, rfl⟩ := Bus.revoke?_eq_some found
    rfl
  | sweep selector order => exact reliable.of_sweep selector order
  | collect eventType => exact reliable.of_receivers eventType
  | hold handles running => exact reliable.congr rfl rfl rfl (fun _ => rfl) fun _ => rfl
  | count id =>
    refine reliable.congr rfl rfl rfl (fun _ => rfl) fun other => ?_
    show ((session.bus.countInvocation id).standing other).live = _
    rw [Bus.standing_countInvocation]
    split <;> rfl
  | note activity plain => exact reliable

theorem reliable_of_reached [Event ε] {hierarchy : Hierarchy} {memory : σ}
    {session : Session σ ε κ} (reached : Reached hierarchy memory session) :
    session.bus.Reliable := by
  have steps := reached.steps
  clear reached
  induction steps with
  | refl => exact (Bus.coherent_start hierarchy).reliable
  | tail _ step ih => exact step.reliable ih

/-- **The report of a dispatch adds up to the count before it, and those that were overdue then.**
Nothing is overdue as long as no predicate on registrations has panicked. -/
theorem total_of_dispatch [Event ε] {hierarchy : Hierarchy} {memory : σ}
    {session : Session σ ε κ} (reached : Reached hierarchy memory session)
    (program : Program σ ε κ) (depth : Nat) {event left : ε} {outcome : Outcome κ}
    {later : Session σ ε κ}
    (ended : Run.on (Dispatch.dispatch program depth event) session =
      (some (left, outcome), later)) :
    let eventType := Event.eventType event
    outcome.total = session.bus.subscriberCount eventType + session.bus.overdue eventType ∧
      (session.bus.isSubscribed eventType = true ↔
        session.bus.overdue eventType < outcome.total) ∧
      (session.Undisturbed → session.bus.overdue eventType = 0) := by
  intro eventType
  have sum : outcome.total =
      session.bus.subscriberCount eventType + session.bus.overdue eventType := by
    rw [← (reliable_of_reached reached).length_receivers,
      ← Dispatch.turns_of_dispatch program ended, List.length_map, outcome.total_eq]
  refine ⟨sum, ?_, fun undisturbed => ?_⟩
  · unfold Bus.isSubscribed
    rw [decide_eq_true_iff, sum]
    omega
  · exact (coherent_of_reached reached undisturbed).overdue_eq_zero eventType

end Session

/-! ### A predicate that panics halfway -/

namespace Interrupted

def hierarchy : Hierarchy :=
  .ofDeclared (.singleton ⟨"part"⟩ [])

/-- There is only one piece of code, and it does nothing. -/
def program : Program Unit Signal Unit where
  test _ _ := .done true
  handle _ _ _ := .done (.ok ())

/-- It matches the first registration and panics at the second. -/
def selector : Bus.Selector Unit := fun registration _ =>
  if registration.id = 1 then .ok true else .error .other

/-- Two registrations, a dispatch after which their list is known, and the panic. -/
def script : Script (Request Unit Signal Unit) Request.Answer Unit :=
  .ask (.subscribeTo ⟨"part"⟩ (.ofHandler ())) fun _ =>
    .ask (.subscribeTo ⟨"part"⟩ (.ofHandler ())) fun _ =>
      .ask (.dispatch { eventType := ⟨"part"⟩ }) fun _ =>
        .ask (.unsubscribeIf selector) fun _ => .done ()

def session : Session Unit Signal Unit :=
  (Session.play program 1 hierarchy () script).2

/-- The next event. -/
def signal : Signal where
  eventType := ⟨"part"⟩

/-- What comes of its dispatch: one of the two receivers is gone. -/
def outcome : Outcome Unit where
  eventType := ⟨"part"⟩
  turns := [⟨⟨1, ⟨"part"⟩, .ofHandler ()⟩, .gone⟩, ⟨⟨2, ⟨"part"⟩, .ofHandler ()⟩, .invoked⟩]

theorem reached : Session.Reached hierarchy () session :=
  ⟨program, 1, script, rfl⟩

theorem ended : Run.on (Dispatch.dispatch program 1 signal) session =
    (some (signal, outcome), (Run.on (Dispatch.dispatch program 1 signal) session).2) :=
  Prod.ext (by cbv) rfl

/-- Of the two turns one is counted beforehand, and one is overdue. -/
theorem total_interrupted : outcome.total = 2 ∧ session.bus.subscriberCount ⟨"part"⟩ = 1 ∧
    session.bus.isSubscribed ⟨"part"⟩ = true ∧ session.bus.overdue ⟨"part"⟩ = 1 := by
  obtain ⟨sum, subscribed, -⟩ := Session.total_of_dispatch reached program 1 ended
  have total : outcome.total = 2 := by cbv
  have overdue : session.bus.overdue ⟨"part"⟩ = 1 := by cbv
  have part : Event.eventType signal = ⟨"part"⟩ := rfl
  rw [part, total, overdue] at sum subscribed
  exact ⟨total, by omega, subscribed.mpr (by decide), overdue⟩

/-- **The count is not what a dispatch reports** once a predicate has panicked. -/
theorem subscriberCount_ne_total :
    ¬ ∀ (session later : Session Unit Signal Unit) (event left : Signal) (outcome : Outcome Unit),
        Session.Reached hierarchy () session →
          Run.on (Dispatch.dispatch program 1 event) session = (some (left, outcome), later) →
            session.bus.subscriberCount (Event.eventType event) = outcome.total := by
  intro agrees
  have same := agrees session _ signal signal outcome reached ended
  have count : session.bus.subscriberCount (Event.eventType signal) = 1 := by cbv
  have total : outcome.total = 2 := by cbv
  omega

end Interrupted

end ExtensionHost
