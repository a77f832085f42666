/-
**What is left of a limit is told by the invocations in the journal.**

An invocation is counted before its turn is put on record. Whenever code is in control, all of them
are on record, those of outer dispatches included, and then the two numbers agree.

* `Session.invocations`: the turns on record that were invocations of a registration.
* `Step.unlimited`: without a limit there is nothing to count.
* `Moment.Limits.remaining`: what is left of a limit whenever code is in control.
* `remaining_of_reached`: so it is in every session, and after every dispatch.
-/

import ExtensionHost.Proofs.Bus.Limits

namespace ExtensionHost

open Relation (ReflTransGen)

variable {σ ε κ : Type}

/-! ### Invocations on record -/

/-- Whether an entry tells of an invocation of the registration with this number. -/
def Activity.invokes (id : Nat) : Activity ε κ → Bool
  | settled _ turn => turn.invokes id
  | _ => false

/-- How many turns of a registration were invocations, at whatever depth. -/
def Session.invocations (session : Session σ ε κ) (id : Nat) : Nat :=
  session.journal.countP (·.activity.invokes id)

theorem Tally.invocations_foldl_add (id : Nat) (journal : List (Entry ε κ)) (tally : Tally κ) :
    (journal.foldl (fun tally entry => tally.add id entry.activity) tally).invocations =
      tally.invocations + journal.countP (·.activity.invokes id) := by
  induction journal generalizing tally with
  | nil => rfl
  | cons entry rest ih =>
    have first : (tally.add id entry.activity).invocations =
        tally.invocations + if entry.activity.invokes id then 1 else 0 := by
      cases entry.activity <;> rfl
    rw [List.foldl_cons, ih, first, List.countP_cons]
    omega

theorem Session.tally_invocations (session : Session σ ε κ) (id : Nat) :
    (session.tally id).invocations = session.invocations id :=
  (Tally.invocations_foldl_add id session.journal {}).trans (Nat.zero_add _)

/-! ### Registrations without a limit -/

namespace Session

/-- What has no limit has no number of invocations left. -/
def Unlimited (session : Session σ ε κ) : Prop :=
  ∀ registration ∈ session.enrolled, registration.subscriber.limit = none →
    (session.bus.standing registration.id).remaining = none

theorem Unlimited.congr {session later : Session σ ε κ} (unlimited : session.Unlimited)
    (enrolled : later.enrolled = session.enrolled)
    (none_left : ∀ id, (session.bus.standing id).remaining = none →
      (later.bus.standing id).remaining = none) : later.Unlimited := by
  intro registration member boundless
  rw [enrolled] at member
  exact none_left _ (unlimited registration member boundless)

theorem Step.unlimited {session later : Session σ ε κ} (step : Step session later)
    (accounted : session.Accounted) (unlimited : session.Unlimited) : later.Unlimited := by
  cases step with
  | remember | hold => exact unlimited.congr rfl fun _ => id
  | @enrol eventType subscriber registration bus accepted =>
    obtain ⟨-, gains⟩ := Bus.gains_of_subscribeTo accepted
    intro other member boundless
    show (bus.standing other.id).remaining = none
    rw [enrolled_record] at member
    rw [gains.standing]
    rcases List.mem_append.mp member with old | new
    · have low := accounted.numbered other old
      rw [if_neg (Nat.ne_of_lt (gains.id_eq ▸ low))]
      exact unlimited other old boundless
    · obtain rfl := List.mem_singleton.mp new
      rw [if_pos rfl]
      exact congrArg (Option.map Subtype.val) boundless
  | @revoke subscription registration bus found =>
    have loses := accounted.sound.loses_revoked found
    refine unlimited.congr (enrolled_record_of_none rfl) fun id boundless => ?_
    show (bus.standing id).remaining = none
    rw [loses.standing]
    split <;> exact boundless
  | sweep selector order =>
    have loses := session.bus.loses_sweep selector order
    refine unlimited.congr ?_ fun id boundless => ?_
    · exact enrolled_record_of_none (Activity.filterMap_enrolled?_ofSweep _)
    · show ((session.bus.sweep selector order).bus.standing id).remaining = none
      rw [loses.standing]
      split <;> exact boundless
  | collect eventType =>
    obtain ⟨cache, same⟩ := session.bus.receivers_bus eventType
    refine unlimited.congr (enrolled_record_of_none ?_) fun id boundless => ?_
    · unfold Run.collecting
      split <;> rfl
    · show ((session.bus.receivers eventType).bus.standing id).remaining = none
      rw [same]
      exact boundless
  | count target =>
    refine unlimited.congr rfl fun id boundless => ?_
    show ((session.bus.countInvocation target).standing id).remaining = none
    rw [Bus.standing_countInvocation]
    split
    · exact congrArg (Option.map (· - 1)) boundless
    · exact boundless
  | note activity plain =>
    have quiet := List.filterMap_cons_none (l := []) (Activity.enrolled?_of_plain plain)
    exact unlimited.congr (enrolled_record_of_none quiet) fun _ => id

theorem unlimited_of_steps {hierarchy : Hierarchy} {memory : σ} {session : Session σ ε κ}
    (steps : ReflTransGen Step (start hierarchy memory) session) : session.Unlimited := by
  induction steps with
  | refl => exact fun _ member => absurd member List.not_mem_nil
  | tail earlier step ih =>
    exact step.unlimited (accounted_of_steps earlier (accounted_start hierarchy memory)) ih

end Session

/-! ### What is left -/

/-- While code is in control, no invocation is counted without being on record. -/
theorem owed_of_called {frames : List (Frame κ)}
    (called : ∀ frame ∈ frames, frame.stage.runsCode = true) (id : Nat) : owed id frames = 0 := by
  refine List.countP_eq_zero.mpr fun frame member owes => ?_
  obtain ⟨eventType, stage, waiting⟩ := frame
  have runs := called _ member
  cases stage with
  | finished turn => cases runs
  | between | asked | asking | handling => cases owes

theorem Moment.Limits.remaining {frames : List (Frame κ)} {session : Session σ ε κ}
    (limits : Limits ⟨frames, session⟩) (control : InControl frames)
    {registration : Registration κ} (member : registration ∈ session.enrolled) {limit : Limit}
    (has : registration.subscriber.limit = some limit) :
    (session.bus.standing registration.id).remaining =
        some (limit.val - session.invocations registration.id) ∧
      ((session.bus.standing registration.id).live = true →
        session.invocations registration.id < limit.val) := by
  have limited := limits.limited registration member limit has
  have none_owed : owed registration.id frames = 0 :=
    owed_of_called (limits.ordered.all_called control) _
  have remaining := limited.remaining
  have live := limited.live
  rw [none_owed, Nat.add_zero, Session.tally_invocations] at remaining live
  exact ⟨remaining, live⟩

/-- Nothing is counted where nothing is limited. -/
theorem Bus.countInvocation_of_unlimited {bus : Bus κ} {id : Nat}
    (unlimited : (bus.standing id).remaining = none) : bus.countInvocation id = bus := by
  have same : bus.standings.modify id .invoke = bus.standings := by
    refine Table.map_eq_self fun entry member => ?_
    split
    · rename_i own
      have found : bus.standing id = entry.2 :=
        congrArg (Option.getD · _) (Table.get?_of_mem (own ▸ member))
      rw [found] at unlimited
      unfold Standing.invoke
      rw [unlimited]
      exact congrArg (Standing.mk _) unlimited.symm
    · rfl
  unfold countInvocation
  rw [same]

namespace Session

/-- What is left of a count, which limits nothing if it is zero, and what that means. -/
theorem remaining_of_moves {hierarchy : Hierarchy} {memory : σ} {frames : List (Frame κ)}
    {session : Session σ ε κ}
    (moves : ReflTransGen Move ⟨[], start hierarchy memory⟩ ⟨frames, session⟩)
    (control : InControl frames) {registration : Registration κ}
    (member : registration ∈ session.enrolled) {count : Nat}
    (made : registration.subscriber.limit = Limit.ofNat? count) :
    (session.bus.standing registration.id).remaining =
        (if count = 0 then none else some (count - session.invocations registration.id)) ∧
      ((session.bus.standing registration.id).remaining = some 0 →
        (session.bus.standing registration.id).live = false) := by
  unfold Limit.ofNat? at made
  split at made
  · rename_i positive
    obtain ⟨remaining, live⟩ := (limits_of_moves moves).remaining control member made
    rw [if_neg (Nat.ne_of_gt positive), remaining]
    refine ⟨rfl, fun spent => ?_⟩
    rw [← Bool.not_eq_true]
    intro still
    have few := live still
    have none_left := Option.some.inj spent
    omega
  · rename_i zero
    have boundless := unlimited_of_steps (steps_of_moves moves) registration member made
    rw [if_pos (by omega), boundless]
    exact ⟨rfl, fun spent => nomatch spent⟩

/-- **What is left of a limit is the limit without the invocations on record**, and nothing else
takes from it, in every session and in every dispatch. A registration with nothing left has ended
and is stored nowhere; one without a limit is not touched by counting. -/
theorem remaining_of_reached [Event ε] {hierarchy : Hierarchy} {memory : σ}
    {session : Session σ ε κ} (reached : Reached hierarchy memory session)
    {registration : Registration κ} (member : registration ∈ session.enrolled) {count : Nat}
    (made : registration.subscriber.limit = Limit.ofNat? count) :
    (session.bus.standing registration.id).remaining =
        (if count = 0 then none else some (count - session.invocations registration.id)) ∧
      ((session.bus.standing registration.id).remaining = some 0 →
        (session.bus.standing registration.id).live = false ∧
          ∀ eventType, registration ∉ session.bus.setOf eventType) ∧
      (count = 0 → Run.on (Dispatch.countInvocation registration) session = (some (), session)) ∧
      ∀ (program : Program σ ε κ) (depth : Nat) (event : ε), ∃ added,
        (Run.on (Dispatch.dispatch program depth event) session).2.journal =
            session.journal ++ added ∧
          ((Run.on (Dispatch.dispatch program depth event) session).2.bus.standing
              registration.id).remaining =
            (session.bus.standing registration.id).remaining.map
              (· - added.countP (·.activity.invokes registration.id)) := by
  obtain ⟨frames, control, moves⟩ := reached.controlled
  obtain ⟨remaining, spent⟩ := remaining_of_moves moves control member made
  have accounted := (ordered_of_moves moves).accounted
  refine ⟨remaining, fun none_left => ⟨spent none_left, fun eventType stored => ?_⟩,
    fun zero => ?_, fun program depth event => ?_⟩
  · have live := (accounted.sound.live_iff _).mpr ⟨eventType, registration, stored, rfl⟩
    exact Bool.false_ne_true ((spent none_left).symm.trans live)
  · rw [if_pos zero] at remaining
    rw [Dispatch.on_countInvocation, remaining, if_neg nofun,
      Bus.countInvocation_of_unlimited remaining]
  · obtain ⟨halted, stops, onwards⟩ :=
      Dispatch.controlled_dispatch program depth control event session
    generalize (Run.on (Dispatch.dispatch program depth event) session).2 = later at onwards ⊢
    have steps : ReflTransGen Step session later := steps_of_moves onwards
    obtain ⟨added, journal⟩ := journal_grows_of_steps steps
    have sum : later.invocations registration.id =
        session.invocations registration.id +
          added.countP (·.activity.invokes registration.id) := by
      unfold invocations
      rw [← journal, List.countP_append]
    have present := enrolled_subset_of_steps steps member
    obtain ⟨left, -⟩ := remaining_of_moves (moves.trans onwards) stops present made
    refine ⟨added, journal.symm, ?_⟩
    rw [left, remaining, sum]
    split
    · rfl
    · rw [Option.map_some, Nat.sub_sub]

end Session

/-! ### More invocations than the limit -/

namespace Reentrant

/-- The inner invocation takes the last one, and the outer one takes nothing more. -/
theorem remaining_reentrant : session.invocations registration.id = 2 ∧
    (session.bus.standing registration.id).remaining = some 0 ∧
    (session.bus.standing registration.id).live = false ∧
    ∀ eventType, registration ∉ session.bus.setOf eventType := by
  have reached : Session.Reached hierarchy false session := ⟨program, 2, script, rfl⟩
  have twice : session.invocations registration.id = 2 := by cbv
  have made : registration.subscriber.limit = Limit.ofNat? 1 := rfl
  obtain ⟨left, spent, -, -⟩ := Session.remaining_of_reached reached enrolled made
  rw [twice] at left
  exact ⟨twice, left, spent left⟩

end Reentrant

end ExtensionHost
