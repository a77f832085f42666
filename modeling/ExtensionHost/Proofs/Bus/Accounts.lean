/-
**The journal accounts for every registration: how it came onto the bus, and how it left.**

* `Session.enrolled`, `Session.ended`: the registrations that were made, and those that have ended
  since, both in order.
* `Session.Accounted`: every registration that the bus has or knows is among those made, and a
  registration is live as long as it is not among those that have ended.
* `Accounted.find?_eq`: a handle finds its registration as long as that is live.
* `Step.accounted`, `accounted_of_steps`: so it is in every session.
-/

import ExtensionHost.Proofs.Bus.Coherence

namespace ExtensionHost

open Relation (ReflTransGen)

variable {σ ε κ : Type}

/-! ### Registrations in the journal -/

namespace Activity

/-- The registration that was made. -/
def enrolled? : Activity ε κ → Option (Registration κ)
  | subscribed registration => some registration
  | _ => none

/-- The registration that has ended, by its handle or by a predicate. -/
def ended? : Activity ε κ → Option (Registration κ)
  | revoked registration | removed registration => some registration
  | _ => none

theorem enrolled?_of_plain {activity : Activity ε κ} (plain : activity.isChange = false) :
    activity.enrolled? = none := by
  cases activity <;> first | rfl | cases plain

theorem ended?_of_plain {activity : Activity ε κ} (plain : activity.isChange = false) :
    activity.ended? = none := by
  cases activity <;> first | rfl | cases plain

theorem filterMap_enrolled?_ofSweep (sweep : Bus.Sweep κ) :
    (ofSweep sweep : List (Activity ε κ)).filterMap enrolled? = [] := by
  unfold ofSweep
  rw [List.filterMap_append, List.append_eq_nil_iff]
  constructor
  · rw [List.filterMap_eq_nil_iff]
    intro activity member
    obtain ⟨registration, -, rfl⟩ := List.mem_map.mp member
    rfl
  · cases sweep.panic with
    | some payload => rfl
    | none => cases sweep.removed <;> rfl

theorem filterMap_ended?_ofSweep (sweep : Bus.Sweep κ) :
    (ofSweep sweep : List (Activity ε κ)).filterMap ended? = sweep.removed := by
  have each : ended? ∘ (removed : Registration κ → Activity ε κ) = some := rfl
  unfold ofSweep
  rw [List.filterMap_append, List.filterMap_map, each, List.filterMap_some]
  cases sweep.panic with
  | some payload => exact List.append_nil _
  | none =>
    cases sweep.removed with
    | nil => rfl
    | cons first rest => exact List.append_nil _

end Activity

namespace Session

/-- The registrations that were made, in order. -/
def enrolled (session : Session σ ε κ) : List (Registration κ) :=
  session.journal.filterMap (·.activity.enrolled?)

/-- The registrations that have ended, in order. -/
def ended (session : Session σ ε κ) : List (Registration κ) :=
  session.journal.filterMap (·.activity.ended?)

theorem enrolled_record (session : Session σ ε κ) (activities : List (Activity ε κ)) :
    (session.record activities).enrolled =
      session.enrolled ++ activities.filterMap Activity.enrolled? := by
  unfold record enrolled
  rw [List.filterMap_append, List.filterMap_map]
  rfl

theorem ended_record (session : Session σ ε κ) (activities : List (Activity ε κ)) :
    (session.record activities).ended =
      session.ended ++ activities.filterMap Activity.ended? := by
  unfold record ended
  rw [List.filterMap_append, List.filterMap_map]
  rfl

theorem enrolled_record_of_none {session : Session σ ε κ} {activities : List (Activity ε κ)}
    (none_made : activities.filterMap Activity.enrolled? = []) :
    (session.record activities).enrolled = session.enrolled := by
  rw [enrolled_record, none_made, List.append_nil]

theorem ended_record_of_none {session : Session σ ε κ} {activities : List (Activity ε κ)}
    (none_gone : activities.filterMap Activity.ended? = []) :
    (session.record activities).ended = session.ended := by
  rw [ended_record, none_gone, List.append_nil]

/-- The registrations on the bus, those that it knows and those that are live are as the journal
says. -/
structure Accounted (session : Session σ ε κ) : Prop where
  sound : session.bus.Sound
  /-- Later registrations have higher numbers. -/
  increasing : session.enrolled.Pairwise fun first second => first.id < second.id
  numbered : ∀ registration ∈ session.enrolled, registration.id < session.bus.nextId
  stored : ∀ {eventType registration}, registration ∈ session.bus.setOf eventType →
    registration ∈ session.enrolled
  known : ∀ {eventType list}, session.bus.cache.get? eventType = some list →
    ∀ registration ∈ list, registration ∈ session.enrolled
  ended_enrolled : ∀ registration ∈ session.ended, registration ∈ session.enrolled
  /-- A registration is live until it ends. -/
  live_iff : ∀ registration ∈ session.enrolled,
    (session.bus.standing registration.id).live = true ↔ registration ∉ session.ended

namespace Accounted

variable {session : Session σ ε κ}

theorem eq_of_id (accounted : session.Accounted) {first second : Registration κ}
    (member : first ∈ session.enrolled) (present : second ∈ session.enrolled)
    (same : first.id = second.id) : first = second :=
  Registration.eq_of_id accounted.increasing member present same

/-- A handle finds its registration as long as that is live. -/
theorem find?_eq (accounted : session.Accounted) (alive : session.bus.isAlive = true)
    {registration : Registration κ} (member : registration ∈ session.enrolled) :
    session.bus.find? registration.subscription =
      if (session.bus.standing registration.id).live then some registration else none := by
  have found : ∀ other, session.bus.find? registration.subscription = some other →
      other = registration ∧ (session.bus.standing registration.id).live = true := by
    intro other found
    obtain ⟨stored, same⟩ := Bus.mem_of_find? found
    have live := (accounted.sound.live_iff other.id).mpr ⟨_, other, stored, rfl⟩
    rw [same] at live
    exact ⟨accounted.eq_of_id (accounted.stored stored) member same, live⟩
  cases live : (session.bus.standing registration.id).live with
  | false =>
    rw [if_neg Bool.false_ne_true, Option.eq_none_iff_forall_ne_some]
    intro other present
    rw [(found other present).2] at live
    cases live
  | true =>
    rw [if_pos rfl]
    obtain ⟨eventType, other, stored, same⟩ := (accounted.sound.live_iff _).mp live
    obtain rfl := accounted.eq_of_id (accounted.stored stored) member same
    rw [← accounted.sound.typed stored] at stored
    have present : (session.bus.find? other.subscription).isSome = true := by
      unfold Bus.find?
      rw [if_pos alive, List.find?_isSome]
      exact ⟨other, stored, decide_eq_true rfl⟩
    obtain ⟨rival, is⟩ := Option.isSome_iff_exists.mp present
    rw [is, (found rival is).1]

/-! ### What steps preserve -/

/-- Nothing is registered, and nothing ends. -/
theorem congr (accounted : session.Accounted) {later : Session σ ε κ} (sound : later.bus.Sound)
    (enrolled : later.enrolled = session.enrolled) (ended : later.ended = session.ended)
    (nextId : later.bus.nextId = session.bus.nextId)
    (setOf : ∀ eventType, later.bus.setOf eventType = session.bus.setOf eventType)
    (live : ∀ id, (later.bus.standing id).live = (session.bus.standing id).live)
    (known : ∀ {eventType list}, later.bus.cache.get? eventType = some list →
      ∀ registration ∈ list, registration ∈ session.enrolled) : later.Accounted where
  sound := sound
  increasing := enrolled ▸ accounted.increasing
  numbered := by
    rw [enrolled, nextId]
    exact accounted.numbered
  stored member := by
    rw [setOf] at member
    rw [enrolled]
    exact accounted.stored member
  known found := by
    rw [enrolled]
    exact known found
  ended_enrolled := by
    rw [enrolled, ended]
    exact accounted.ended_enrolled
  live_iff := by
    rw [enrolled, ended]
    intro registration member
    rw [live]
    exact accounted.live_iff registration member

theorem of_gains (accounted : session.Accounted) {registration : Registration κ} {later : Bus κ}
    (gains : session.bus.Gains registration later) :
    (Session.record { session with bus := later } [.subscribed registration]).Accounted := by
  have enrolled : (Session.record { session with bus := later }
      [.subscribed registration]).enrolled = session.enrolled ++ [registration] :=
    enrolled_record _ _
  have ended : (Session.record { session with bus := later }
      [.subscribed registration]).ended = session.ended := ended_record_of_none rfl
  have below : ∀ old ∈ session.enrolled, old.id < registration.id := by
    intro old member
    rw [gains.id_eq]
    exact accounted.numbered old member
  refine ⟨accounted.sound.of_gains gains, ?_, ?_, ?_, ?_, ?_, ?_⟩
  · rw [enrolled, List.pairwise_append]
    refine ⟨accounted.increasing, List.pairwise_singleton _ _, fun old member new last => ?_⟩
    rw [List.mem_singleton.mp last]
    exact below old member
  · intro other member
    show other.id < later.nextId
    rw [enrolled, List.mem_append, List.mem_singleton] at member
    rw [gains.nextId]
    rcases member with old | rfl
    · exact Nat.lt_succ_of_lt (accounted.numbered other old)
    · exact Nat.lt_succ_of_le (Nat.le_of_eq gains.id_eq)
  · intro eventType other member
    rw [enrolled, List.mem_append, List.mem_singleton]
    rcases gains.mem_setOf.mp member with old | ⟨rfl, -⟩
    · exact .inl (accounted.stored old)
    · exact .inr rfl
  · intro eventType list found
    replace found : later.cache.get? eventType = some list := found
    rw [gains.cache] at found
    cases found
  · rw [enrolled, ended]
    exact fun other member => List.mem_append_left _ (accounted.ended_enrolled other member)
  · intro other member
    show (later.standing other.id).live = true ↔ _
    rw [enrolled, List.mem_append, List.mem_singleton] at member
    rw [ended, gains.standing]
    rcases member with old | rfl
    · rw [if_neg (Nat.ne_of_lt (below other old))]
      exact accounted.live_iff other old
    · rw [if_pos rfl]
      refine ⟨fun _ member => ?_, fun _ => rfl⟩
      exact Nat.lt_irrefl _ (below _ (accounted.ended_enrolled _ member))

/-- Some registrations end, and are put on record. -/
theorem of_loses (accounted : session.Accounted) {gone : Nat → Bool} {later : Bus κ}
    {withdrawn : List (Registration κ)} {activities : List (Activity ε κ)}
    (loses : session.bus.Loses gone later)
    (gone_iff : ∀ id, gone id = true ↔ ∃ registration ∈ withdrawn, registration.id = id)
    (were_stored : ∀ registration ∈ withdrawn, ∃ eventType,
      registration ∈ session.bus.setOf eventType)
    (cache : later.cache = ∅ ∨ later.cache = session.bus.cache)
    (none_made : activities.filterMap Activity.enrolled? = [])
    (on_record : activities.filterMap Activity.ended? = withdrawn) :
    (Session.record { session with bus := later } activities).Accounted := by
  have enrolled : (Session.record { session with bus := later } activities).enrolled =
      session.enrolled := enrolled_record_of_none none_made
  have ended : (Session.record { session with bus := later } activities).ended =
      session.ended ++ withdrawn := by
    rw [ended_record, on_record]
    rfl
  have withdrawn_enrolled : ∀ registration ∈ withdrawn, registration ∈ session.enrolled := by
    intro registration member
    obtain ⟨eventType, stored⟩ := were_stored registration member
    exact accounted.stored stored
  refine ⟨accounted.sound.of_loses loses, enrolled ▸ accounted.increasing, ?_, ?_, ?_, ?_, ?_⟩
  · intro registration member
    show registration.id < later.nextId
    rw [loses.nextId]
    exact accounted.numbered registration (enrolled ▸ member)
  · intro eventType registration member
    rw [enrolled]
    exact accounted.stored (loses.mem_setOf.mp member).1
  · intro eventType list found registration member
    replace found : later.cache.get? eventType = some list := found
    rw [enrolled]
    rcases cache with unknown | kept
    · rw [unknown] at found
      cases found
    · rw [kept] at found
      exact accounted.known found registration member
  · rw [enrolled, ended]
    intro registration member
    rcases List.mem_append.mp member with before | now
    · exact accounted.ended_enrolled registration before
    · exact withdrawn_enrolled registration now
  · intro registration member
    rw [enrolled] at member
    show (later.standing registration.id).live = true ↔ _
    rw [ended, loses.standing, List.mem_append]
    cases lost : gone registration.id with
    | true =>
      obtain ⟨other, among, same⟩ := (gone_iff _).mp lost
      obtain rfl := accounted.eq_of_id (withdrawn_enrolled other among) member same
      exact ⟨fun live => absurd live Bool.false_ne_true, fun kept => absurd (.inr among) kept⟩
    | false =>
      have stays : registration ∉ withdrawn := by
        intro among
        rw [(gone_iff _).mpr ⟨registration, among, rfl⟩] at lost
        cases lost
      rw [if_neg Bool.false_ne_true, accounted.live_iff registration member]
      exact ⟨fun kept either => either.elim kept stays, fun kept before => kept (.inl before)⟩

theorem of_receivers (accounted : session.Accounted) (eventType : EventType) :
    (Session.record { session with bus := (session.bus.receivers eventType).bus }
      (Run.collecting session.bus eventType)).Accounted := by
  have silent : ∀ view : Activity ε κ → Option (Registration κ),
      (∀ eventType length receivers, view (.collected eventType length receivers) = none) →
        (Run.collecting session.bus eventType).filterMap view = [] := by
    intro view unseen
    unfold Run.collecting
    split
    · exact List.filterMap_cons_none (unseen _ _ _)
    · rfl
  obtain ⟨cache, same⟩ := session.bus.receivers_bus eventType
  refine accounted.congr ((Step.collect session eventType).sound accounted.sound) ?_ ?_ ?_ ?_ ?_ ?_
  · exact enrolled_record_of_none (silent _ fun _ _ _ => rfl)
  · exact ended_record_of_none (silent _ fun _ _ _ => rfl)
  · show (session.bus.receivers eventType).bus.nextId = _
    rw [same]
  · intro other
    show (session.bus.receivers eventType).bus.setOf other = _
    rw [same]
    rfl
  · intro id
    show ((session.bus.receivers eventType).bus.standing id).live = _
    rw [same]
    rfl
  · intro other list found
    rcases Bus.known_of_receivers found with known | computed
    · exact accounted.known known
    · intro registration member
      obtain ⟨ancestor, stored⟩ := computed registration member
      exact accounted.stored stored

end Accounted

theorem Step.accounted {session later : Session σ ε κ} (step : Step session later)
    (accounted : session.Accounted) : later.Accounted := by
  have sound := step.sound accounted.sound
  cases step with
  | remember memory =>
    exact accounted.congr sound rfl rfl rfl (fun _ => rfl) (fun _ => rfl) accounted.known
  | enrol accepted => exact accounted.of_gains (Bus.gains_of_subscribeTo accepted).2
  | @revoke subscription registration bus found =>
    obtain ⟨present, same⟩ := Bus.revoke?_eq_some found
    obtain ⟨stored, same_id⟩ := Bus.mem_of_find? present
    have forgotten : bus.cache = ∅ := by rw [same]
    have on_record : [(Activity.revoked registration : Activity ε κ)].filterMap Activity.ended? =
        [registration] := rfl
    refine accounted.of_loses (accounted.sound.loses_revoked found) (fun id => ?_) ?_
      (.inl forgotten) rfl on_record
    · rw [← same_id]
      simp [eq_comm]
    · intro other member
      rw [List.mem_singleton.mp member]
      exact ⟨_, stored⟩
  | sweep selector order =>
    refine accounted.of_loses (session.bus.loses_sweep selector order) (fun id => ?_)
      (fun _ => Bus.stored_of_removed) (session.bus.cache_sweep selector order)
      (Activity.filterMap_enrolled?_ofSweep _) (Activity.filterMap_ended?_ofSweep _)
    simp
  | collect eventType => exact accounted.of_receivers eventType
  | hold handles running =>
    exact accounted.congr sound rfl rfl rfl (fun _ => rfl) (fun _ => rfl) accounted.known
  | count id =>
    refine accounted.congr sound rfl rfl rfl (fun _ => rfl) (fun other => ?_) accounted.known
    show ((session.bus.countInvocation id).standing other).live = _
    rw [Bus.standing_countInvocation]
    split <;> rfl
  | note activity plain =>
    have enrolled : (session.record [activity]).enrolled = session.enrolled :=
      enrolled_record_of_none (List.filterMap_cons_none (Activity.enrolled?_of_plain plain))
    have ended : (session.record [activity]).ended = session.ended :=
      ended_record_of_none (List.filterMap_cons_none (Activity.ended?_of_plain plain))
    exact accounted.congr sound enrolled ended rfl (fun _ => rfl) (fun _ => rfl) accounted.known

theorem accounted_of_steps {session later : Session σ ε κ}
    (steps : ReflTransGen Step session later) (accounted : session.Accounted) :
    later.Accounted := by
  induction steps with
  | refl => exact accounted
  | tail _ step ih => exact step.accounted ih

theorem accounted_start (hierarchy : Hierarchy) (memory : σ) :
    (start hierarchy memory : Session σ ε κ).Accounted where
  sound := (Bus.coherent_start hierarchy).toSound
  increasing := List.Pairwise.nil
  numbered _ member := absurd member List.not_mem_nil
  stored member := absurd member List.not_mem_nil
  known found := nomatch found
  ended_enrolled _ member := absurd member List.not_mem_nil
  live_iff _ member := absurd member List.not_mem_nil

theorem enrolled_subset_of_steps {session later : Session σ ε κ}
    (steps : ReflTransGen Step session later) : session.enrolled ⊆ later.enrolled :=
  ((journal_grows_of_steps steps).filterMap _).subset

theorem ended_subset_of_steps {session later : Session σ ε κ}
    (steps : ReflTransGen Step session later) : session.ended ⊆ later.ended :=
  ((journal_grows_of_steps steps).filterMap _).subset

/-- What is live in the end was live before. -/
theorem Accounted.live_of_steps {session later : Session σ ε κ} (accounted : session.Accounted)
    (steps : ReflTransGen Step session later) {registration : Registration κ}
    (member : registration ∈ session.enrolled)
    (live : (later.bus.standing registration.id).live = true) :
    (session.bus.standing registration.id).live = true := by
  have afterwards := accounted_of_steps steps accounted
  have present := enrolled_subset_of_steps steps member
  have kept := (afterwards.live_iff registration present).mp live
  exact (accounted.live_iff registration member).mpr fun before =>
    kept (ended_subset_of_steps steps before)

end Session

end ExtensionHost
