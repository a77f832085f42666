/-
**The receivers of an event type are computed again exactly when registrations have changed.**

* `Activity.rebuilds`, `Activity.isMutation`: what the journal says of computed receivers, and of
  registrations that come and go.
* `Activity.RebuildDue`: receivers have never been computed, or there was a mutation since.
* `Activity.isFresh`: the same as a fold over what has happened, with `rebuildDue_iff`.
* `Session.Remembers`, `Step.remembers`: the bus knows the receivers of a type exactly when they are
  fresh, as long as no predicate on registrations panics.
* `journal_dispatch`: what a dispatch does first.
* `rebuilds_iff_due`: a dispatch computes receivers exactly when that is due.
-/

import ExtensionHost.Proofs.Bus.Departures
import Mathlib.Data.List.Induction

namespace ExtensionHost

open Relation (ReflTransGen)

variable {σ ε κ α β : Type}

/-! ### Mutations and rebuilds -/

/-- Whether a notice says that the receivers of this type were computed. -/
def Notice.isRebuildOf (eventType : EventType) : Notice → Bool
  | dispatchListRebuilt other _ _ => other = eventType
  | _ => false

namespace Activity

/-- Whether it is reported that the receivers of this type were computed. -/
def rebuilds (eventType : EventType) (activity : Activity ε κ) : Bool :=
  activity.notice?.any (Notice.isRebuildOf eventType)

/-- Whether a request has changed the registrations. When a predicate takes some away, that is said
once, after all of them. -/
def isMutation : Activity ε κ → Bool
  | subscribed _ | revoked _ | swept _ => true
  | removed _ | interrupted _ | collected _ _ _ => false
  | began _ _ | tested _ _ _ _ | handling _ _ | settled _ _ => false

/-- The receivers of a type have not been computed yet, or the registrations have changed since that
was done last. -/
def RebuildDue (eventType : EventType) (activities : List (Activity ε κ)) : Prop :=
  (∀ activity ∈ activities, activity.rebuilds eventType = false) ∨
    ∃ before last after, activities = before ++ last :: after ∧ last.rebuilds eventType = true ∧
      (∀ activity ∈ after, activity.rebuilds eventType = false) ∧
        ∃ activity ∈ after, activity.isMutation = true

/-- Whether the receivers of a type are up to date after one more activity. -/
def freshen (eventType : EventType) (fresh : Bool) (activity : Activity ε κ) : Bool :=
  activity.rebuilds eventType || fresh && !activity.isMutation

/-- Whether the receivers of a type are up to date. -/
def isFresh (eventType : EventType) (activities : List (Activity ε κ)) : Bool :=
  activities.foldl (freshen eventType) false

theorem isFresh_append (eventType : EventType) (activities added : List (Activity ε κ)) :
    isFresh eventType (activities ++ added) =
      added.foldl (freshen eventType) (isFresh eventType activities) :=
  List.foldl_append

theorem rebuilds_of_plain {activity : Activity ε κ} (plain : activity.isChange = false)
    (eventType : EventType) : activity.rebuilds eventType = false := by
  cases activity with
  | settled other turn => rcases turn with ⟨registration, _ | _ | _ | _ | _ | failure⟩ <;> rfl
  | began | tested | handling => rfl
  | _ => cases plain

theorem freshen_of_plain {activity : Activity ε κ} (plain : activity.isChange = false)
    (eventType : EventType) (fresh : Bool) : freshen eventType fresh activity = fresh := by
  have settled : activity.isMutation = false := by
    cases activity <;> first | rfl | cases plain
  unfold freshen
  rw [rebuilds_of_plain plain, settled, Bool.false_or, Bool.not_false, Bool.and_true]

variable {eventType : EventType} {activities : List (Activity ε κ)} {next : Activity ε κ}

theorem idle_concat (idle : ∀ activity ∈ activities, activity.rebuilds eventType = false)
    (idle_next : next.rebuilds eventType = false) :
    ∀ activity ∈ activities ++ [next], activity.rebuilds eventType = false := by
  simpa [or_imp, forall_and] using ⟨idle, idle_next⟩

theorem rebuilt_or_never (eventType : EventType) (activities : List (Activity ε κ)) :
    (∀ activity ∈ activities, activity.rebuilds eventType = false) ∨
      ∃ before last after, activities = before ++ last :: after ∧ last.rebuilds eventType = true ∧
        ∀ activity ∈ after, activity.rebuilds eventType = false := by
  induction activities using List.reverseRecOn with
  | nil => exact .inl fun _ none => absurd none List.not_mem_nil
  | append_singleton activities next ih =>
    cases rebuilt : next.rebuilds eventType with
    | true => exact .inr ⟨activities, next, [], rfl, rebuilt, fun _ none => nomatch none⟩
    | false =>
      rcases ih with never | ⟨before, last, after, rfl, latest, later⟩
      · exact .inl (idle_concat never rebuilt)
      · exact .inr ⟨before, last, after ++ [next], by simp, latest, idle_concat later rebuilt⟩

theorem split_concat {before after : List (Activity ε κ)} {last : Activity ε κ}
    (split : activities ++ [next] = before ++ last :: after) (occupied : after ≠ []) :
    ∃ others, after = others ++ [next] ∧ activities = before ++ last :: others := by
  obtain ⟨others, final, rfl⟩ := (List.eq_nil_or_concat after).resolve_left occupied
  rw [List.concat_eq_append] at split ⊢
  rw [← List.cons_append, ← List.append_assoc] at split
  obtain ⟨same, final_same⟩ := List.append_inj' split rfl
  obtain rfl := (List.cons.inj final_same).1
  exact ⟨others, rfl, same⟩

theorem not_due_of_rebuilds (rebuilt : next.rebuilds eventType = true) :
    ¬ RebuildDue eventType (activities ++ [next]) := by
  rintro (never | ⟨before, last, after, split, -, later, activity, member, -⟩)
  · have unseen := never next (List.mem_append_right _ List.mem_cons_self)
    exact Bool.false_ne_true (unseen.symm.trans rebuilt)
  · obtain ⟨others, rfl, -⟩ := split_concat split (List.ne_nil_of_mem member)
    have unseen := later next (List.mem_append_right _ List.mem_cons_self)
    exact Bool.false_ne_true (unseen.symm.trans rebuilt)

theorem due_of_isMutation (idle : next.rebuilds eventType = false)
    (mutates : next.isMutation = true) : RebuildDue eventType (activities ++ [next]) := by
  rcases rebuilt_or_never eventType activities with never | ⟨before, last, after, rfl, latest, later⟩
  · exact .inl (idle_concat never idle)
  · refine .inr ⟨before, last, after ++ [next], by simp, latest, idle_concat later idle, next, ?_,
      mutates⟩
    exact List.mem_append_right _ List.mem_cons_self

theorem due_concat_iff (idle : next.rebuilds eventType = false)
    (settled : next.isMutation = false) :
    RebuildDue eventType (activities ++ [next]) ↔ RebuildDue eventType activities := by
  constructor
  · rintro (never | ⟨before, last, after, split, latest, later, activity, member, mutates⟩)
    · exact .inl (List.forall_mem_append.mp never).1
    · obtain ⟨others, rfl, rfl⟩ := split_concat split (List.ne_nil_of_mem member)
      refine .inr ⟨before, last, others, rfl, latest, (List.forall_mem_append.mp later).1,
        activity, ?_, mutates⟩
      refine (List.mem_append.mp member).resolve_right fun final => ?_
      rw [List.mem_singleton.mp final, settled] at mutates
      cases mutates
  · rintro (never | ⟨before, last, after, rfl, latest, later, activity, member, mutates⟩)
    · exact .inl (idle_concat never idle)
    · exact .inr ⟨before, last, after ++ [next], by simp, latest, idle_concat later idle, activity,
        List.mem_append_left _ member, mutates⟩

theorem rebuildDue_iff (eventType : EventType) (activities : List (Activity ε κ)) :
    RebuildDue eventType activities ↔ isFresh eventType activities = false := by
  induction activities using List.reverseRecOn with
  | nil => exact ⟨fun _ => rfl, fun _ => .inl fun _ none => absurd none List.not_mem_nil⟩
  | append_singleton activities next ih =>
    rw [isFresh_append, List.foldl_cons, List.foldl_nil, freshen]
    cases rebuilt : next.rebuilds eventType with
    | true => simpa using not_due_of_rebuilds rebuilt
    | false =>
      cases mutates : next.isMutation with
      | true => simpa using due_of_isMutation rebuilt mutates
      | false => simpa using (due_concat_iff rebuilt mutates).trans ih

end Activity

/-! ### What the bus knows -/

theorem Bus.computed_iff (bus : Bus κ) (eventType : EventType) :
    (bus.receivers eventType).computed = true ↔
      bus.hierarchy.contains eventType = true ∧ bus.cache.get? eventType = none := by
  unfold receivers
  split
  · rename_i declared
    cases bus.cache.get? eventType <;> simp [declared]
  · rename_i undeclared
    simp [undeclared]

/-- What is known then is what is fresh after the entry about it. -/
theorem Bus.isSome_cache_receivers (bus : Bus κ) (eventType other : EventType) :
    ((bus.receivers eventType).bus.cache.get? other).isSome =
      (Run.collecting bus eventType : List (Activity ε κ)).foldl (Activity.freshen other)
        (bus.cache.get? other).isSome := by
  unfold Run.collecting receivers
  by_cases declared : bus.hierarchy.contains eventType = true
  · rw [if_pos declared]
    cases bus.cache.get? eventType with
    | some list => rfl
    | none =>
      show ((bus.cache.insert eventType _).get? other).isSome =
        (decide (eventType = other) || (bus.cache.get? other).isSome && true)
      rw [Table.get?_insert, Bool.and_true]
      by_cases same : other = eventType
      · simp [same]
      · simp [same, Ne.symm same]
  · rw [if_neg declared]
    rfl

namespace Session

/-- The bus knows the receivers that are up to date, and no others. -/
def Remembers (session : Session σ ε κ) : Prop :=
  ∀ eventType, (session.bus.cache.get? eventType).isSome =
    Activity.isFresh eventType session.activities

theorem isFresh_record (session : Session σ ε κ) (added : List (Activity ε κ))
    (eventType : EventType) :
    Activity.isFresh eventType (session.record added).activities =
      added.foldl (Activity.freshen eventType) (Activity.isFresh eventType session.activities) := by
  rw [activities_record, Activity.isFresh_append]

/-- The bus has forgotten all receivers, and a mutation is on record. -/
theorem remembers_of_mutation {session : Session σ ε κ} {bus : Bus κ}
    {added : List (Activity ε κ)} (forgotten : bus.cache = ∅)
    (mutated : ∀ eventType fresh, added.foldl (Activity.freshen eventType) fresh = false) :
    (Session.record { session with bus } added).Remembers := by
  intro eventType
  rw [isFresh_record, mutated]
  show (bus.cache.get? eventType).isSome = false
  rw [forgotten]
  rfl

theorem Step.remembers {session later : Session σ ε κ} (step : Step session later)
    (undisturbed : later.Undisturbed) (remembers : session.Remembers) : later.Remembers := by
  cases step with
  | remember | hold | count => exact remembers
  | enrol accepted =>
    exact remembers_of_mutation (Bus.gains_of_subscribeTo accepted).2.cache fun _ fresh => by
      cases fresh <;> rfl
  | revoke found =>
    obtain ⟨-, rfl⟩ := Bus.revoke?_eq_some found
    exact remembers_of_mutation rfl fun _ fresh => by cases fresh <;> rfl
  | sweep selector order =>
    have calm := panic_eq_none_of_undisturbed undisturbed
    by_cases nothing : (session.bus.sweep selector order).removed = []
    · have unsaid : Activity.ofSweep (session.bus.sweep selector order) =
          ([] : List (Activity ε κ)) := by
        rw [Activity.ofSweep, calm, nothing]
        rfl
      rw [unsaid, Bus.sweep_bus_of_nil nothing, record_nil]
      exact remembers
    · obtain ⟨withdrawn, tidied⟩ := Bus.sweep_bus_of_ne_nil calm nothing
      refine remembers_of_mutation (by rw [tidied]; rfl) fun eventType fresh => ?_
      unfold Activity.ofSweep
      rw [calm, List.foldl_append]
      dsimp only
      rw [if_neg (by simpa using nothing)]
      exact Bool.and_false _
  | collect eventType =>
    intro other
    have known : ((session.bus.receivers eventType).bus.cache.get? other).isSome =
        (Run.collecting session.bus eventType : List (Activity ε κ)).foldl
          (Activity.freshen other) (session.bus.cache.get? other).isSome :=
      session.bus.isSome_cache_receivers eventType other
    rw [remembers other] at known
    rw [isFresh_record]
    exact known
  | note activity plain =>
    intro eventType
    rw [isFresh_record]
    exact (remembers eventType).trans (Activity.freshen_of_plain plain _ _).symm

theorem remembers_of_steps {session later : Session σ ε κ}
    (steps : ReflTransGen Step session later) (undisturbed : later.Undisturbed)
    (remembers : session.Remembers) : later.Remembers := by
  induction steps with
  | refl => exact remembers
  | tail _ step ih => exact step.remembers undisturbed (ih (undisturbed.before (.single step)))

end Session

/-! ### Dispatch -/

/-- What comes after an entry of a plain kind starts with that entry. -/
theorem Run.Moves.begins {frames : List (Frame κ)} {run : Run σ ε κ α}
    {after : α → List (Frame κ)} (moves : Run.Moves frames run after)
    (control : ∀ value, InControl (after value)) {session : Session σ ε κ}
    {activity : Activity ε κ} (plain : activity.isChange = false) :
    ∃ rest, (Run.on run (session.record [activity])).2.journal = session.journal ++ rest ∧
      ∀ first ∈ rest.head?, first.activity.isChange = false := by
  obtain ⟨halted, -, reached⟩ := (moves (session.record [activity])).controlled control
  obtain ⟨added, journal⟩ := Session.journal_grows_of_steps (steps_of_moves reached)
  refine ⟨⟨session.bus.running, activity⟩ :: added, ?_, fun first found => ?_⟩
  · rw [← journal]
    exact List.append_assoc _ _ _
  · rw [← Option.some.inj found]
    exact plain

/-- A dispatch puts on record whether it computes its receivers; then it begins, if there are
any. -/
theorem Dispatch.journal_dispatch [Event ε] (program : Program σ ε κ) (depth : Nat) (event : ε)
    (session : Session σ ε κ) :
    ∃ rest, (Run.on (dispatch program (depth + 1) event) session).2.journal =
        session.journal ++
          session.entries (Run.collecting session.bus (Event.eventType event)) ++ rest ∧
      ∀ first ∈ rest.head?, first.activity.isChange = false := by
  have running : (session.bus.receivers (Event.eventType event)).bus.running =
      session.bus.running := by
    obtain ⟨cache, same⟩ := session.bus.receivers_bus (Event.eventType event)
    rw [same]
  have journal : (Session.record
      { session with bus := (session.bus.receivers (Event.eventType event)).bus }
      (Run.collecting session.bus (Event.eventType event))).journal =
        session.journal ++
          session.entries (Run.collecting session.bus (Event.eventType event)) := by
    unfold Session.entries
    rw [← running]
    rfl
  rw [← journal]
  unfold dispatch dispatchWith
  rw [Run.on_bind, Run.on_receivers]
  dsimp only
  split
  · exact ⟨[], (List.append_nil _).symm, fun first none => absurd none (Option.not_mem_none first)⟩
  · rw [Run.on_bind, on_setRunning]
    dsimp only
    rw [Run.on_bind, Run.on_note]
    dsimp only
    have inner : Returns (dispatch program depth) := returns_dispatch program depth
    refine Run.Moves.begins (?_ : Run.Moves [⟨Event.eventType event, .between,
      (session.bus.receivers (Event.eventType event)).list⟩] _ _) (fun _ => inControl_nil) ?_
    · exact (moves_turns program inner _ event).bind fun result =>
        moves_setRunning_leave.bind fun _ => Run.moves_pure rfl
    · rfl

namespace Session

/-- **A dispatch computes its receivers exactly when that is due**, as long as no predicate on
registrations has panicked: its type is declared, and its receivers have never been computed, or the
registrations have changed since. It does so before anything else; what is computed later on belongs
to the dispatches inside it. What counts as a change is told by the answers: a request that was
refused, or that found nothing to do, has left the session as it was. -/
theorem rebuilds_iff_due [Event ε] {hierarchy : Hierarchy} {memory : σ}
    {session : Session σ ε κ} (reached : Reached hierarchy memory session)
    (undisturbed : session.Undisturbed) :
    (∀ (program : Program σ ε κ) (depth : Nat) (event : ε), ∃ added,
      (Run.on (Dispatch.dispatch program (depth + 1) event) session).2.journal =
          session.journal ++ added ∧
        ((∃ first ∈ added.head?, first.activity.rebuilds (Event.eventType event) = true) ↔
          session.bus.hierarchy.contains (Event.eventType event) = true ∧
            Activity.RebuildDue (Event.eventType event) session.activities)) ∧
    ∀ (nested : ε → Run σ ε κ (ε × Outcome κ)) (request : Request σ ε κ)
      (answer : request.Answer) (later : Session σ ε κ),
      Run.on (Dispatch.perform nested request) session = (some answer, later) →
        session.Records later request answer := by
  have remembers := remembers_of_steps reached.steps undisturbed fun _ => rfl
  refine ⟨fun program depth event => ?_, fun nested request answer later performed =>
    Dispatch.records_perform (sound_of_reached reached) request answer performed⟩
  obtain ⟨rest, journal, plain⟩ := Dispatch.journal_dispatch program depth event session
  rw [List.append_assoc] at journal
  refine ⟨_, journal, ?_⟩
  rw [Activity.rebuildDue_iff, ← remembers, Option.isSome_eq_false_iff, Option.isNone_iff_eq_none,
    ← Bus.computed_iff]
  unfold Run.collecting
  cases computed : (session.bus.receivers (Event.eventType event)).computed with
  | true =>
    refine iff_of_true ⟨_, rfl, ?_⟩ rfl
    exact decide_eq_true rfl
  | false =>
    refine iff_of_false ?_ Bool.false_ne_true
    rintro ⟨first, found, rebuilds⟩
    exact Bool.false_ne_true
      ((Activity.rebuilds_of_plain (plain first found) _).symm.trans rebuilds)

end Session

/-! ### One dispatch after another -/

namespace Leaving

def signal : Signal where
  eventType := ⟨"part"⟩

/-- After the registrations have ended, the next dispatch computes its receivers, and the one after
that does not. -/
theorem rebuilds_leaving :
    (∃ added, (Run.on (Dispatch.dispatch program 1 signal) (session [])).2.journal =
        (session []).journal ++ added ∧
      ∃ first ∈ added.head?, first.activity.rebuilds ⟨"part"⟩ = true) ∧
    ∃ added, (Run.on (Dispatch.dispatch program 1 signal) (session [.dispatch signal])).2.journal =
        (session [.dispatch signal]).journal ++ added ∧
      ¬ ∃ first ∈ added.head?, first.activity.rebuilds ⟨"part"⟩ = true := by
  obtain ⟨calm, declared, due⟩ : (session []).Undisturbed ∧
      (session []).bus.hierarchy.contains ⟨"part"⟩ = true ∧
      Activity.isFresh ⟨"part"⟩ (session []).activities = false := of_decide_eq_true (by cbv)
  obtain ⟨calm_later, fresh⟩ : (session [.dispatch signal]).Undisturbed ∧
      Activity.isFresh ⟨"part"⟩ (session [.dispatch signal]).activities = true :=
    of_decide_eq_true (by cbv)
  obtain ⟨added, journal, rebuilds⟩ :=
    (Session.rebuilds_iff_due (reached []) calm).1 program 0 signal
  obtain ⟨others, journal_later, idles⟩ :=
    (Session.rebuilds_iff_due (reached [.dispatch signal]) calm_later).1 program 0 signal
  refine ⟨⟨added, journal, rebuilds.mpr ⟨declared, ?_⟩⟩, others, journal_later, fun rebuilt => ?_⟩
  · exact (Activity.rebuildDue_iff _ _).mpr due
  · have stale := (Activity.rebuildDue_iff _ _).mp (idles.mp rebuilt).2
    exact Bool.false_ne_true (stale.symm.trans fresh)

end Leaving

end ExtensionHost
