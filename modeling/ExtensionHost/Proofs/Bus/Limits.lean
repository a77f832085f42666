/-
**An invocation is counted when the handler has ended, and so a limit binds turn by turn.**

While a handler runs, its own invocation is not counted yet. If it dispatches an event that comes
back to the same registration, that inner turn finds the registration live and is counted as well.

* `Tally`: what the journal tells of the invocations of one registration, and which of them were not
  part of another turn of the same registration.
* `Limited`: the invocations that are left, against the tally.
* `Moment.Limits`, `Move.limits`: so it is at every moment.
* `outermost_le_limit`: the limit holds for the invocations that are not part of another turn.
-/

import ExtensionHost.Proofs.Bus.Frames
import Mathlib.Data.List.Induction

namespace ExtensionHost

open Relation (ReflTransGen)

variable {σ ε κ : Type}

/-! ### Reading the journal -/

/-- Whether the turn was an invocation of the registration with this number. -/
def Turn.invokes (turn : Turn κ) (id : Nat) : Bool :=
  turn.verdict = .invoked && turn.registration.id = id

/-- What the journal tells so far. -/
structure Tally (κ : Type) where
  /-- The receivers whose turns are not on record, for each dispatch, the innermost first. -/
  running : List (List (Registration κ)) := []
  /-- The invocations of one registration. -/
  invocations : Nat := 0
  /-- Those that were not part of another turn of the registration. -/
  outermost : Nat := 0

namespace Tally

/-- Whether the turn in this dispatch is one of the registration with this number. -/
def serves (id : Nat) (pending : List (Registration κ)) : Bool :=
  pending.head?.any (·.id = id)

/-- The dispatches after a turn of the innermost one is on record. -/
def settle : List (List (Registration κ)) → List (List (Registration κ))
  | [] => []
  | pending :: outer => if pending.tail.isEmpty then outer else pending.tail :: outer

/-- The tally after one more entry. -/
def add (id : Nat) (tally : Tally κ) : Activity ε κ → Tally κ
  | .began _ receivers => { tally with running := receivers :: tally.running }
  | .settled _ turn =>
    let nested := tally.running.tail.any (serves id)
    { running := settle tally.running
      invocations := tally.invocations + if turn.invokes id then 1 else 0
      outermost := tally.outermost + if turn.invokes id && !nested then 1 else 0 }
  | _ => tally

end Tally

/-- The tally of the whole journal. -/
def Session.tally (session : Session σ ε κ) (id : Nat) : Tally κ :=
  session.journal.foldl (fun tally entry => tally.add id entry.activity) {}

theorem Tally.add_of_not_isBoundary {id : Nat} {tally : Tally κ} {activity : Activity ε κ}
    (inside : activity.isBoundary = false) : tally.add id activity = tally := by
  cases activity <;> first | rfl | cases inside

theorem Tally.foldl_add_of_not_isBoundary {id : Nat} {tally : Tally κ}
    {added : List (Entry ε κ)} (inside : ∀ entry ∈ added, entry.activity.isBoundary = false) :
    added.foldl (fun tally entry => tally.add id entry.activity) tally = tally := by
  induction added with
  | nil => rfl
  | cons entry rest ih =>
    rw [List.foldl_cons, add_of_not_isBoundary (inside entry List.mem_cons_self)]
    exact ih fun other member => inside other (List.mem_cons_of_mem _ member)

namespace Session

variable {session later : Session σ ε κ} {id : Nat}

theorem tally_record (session : Session σ ε κ) (activity : Activity ε κ) (id : Nat) :
    (session.record [activity]).tally id = (session.tally id).add id activity := by
  unfold tally record
  rw [List.foldl_append]
  rfl

theorem tally_append {added : List (Entry ε κ)}
    (journal : later.journal = session.journal ++ added)
    (inside : ∀ entry ∈ added, entry.activity.isBoundary = false) :
    later.tally id = session.tally id := by
  unfold tally
  rw [journal, List.foldl_append]
  exact Tally.foldl_add_of_not_isBoundary inside

theorem Extends.tally {activities : List (Activity ε κ)}
    (extending : session.Extends later activities) : later.tally id = session.tally id := by
  refine tally_append extending.journal fun entry member => ?_
  obtain ⟨activity, among, rfl⟩ := List.mem_map.mp member
  exact Activity.isBoundary_of_isChange (extending.changes activity among)

theorem outermost_le_invocations (session : Session σ ε κ) (id : Nat) :
    (session.tally id).outermost ≤ (session.tally id).invocations := by
  unfold tally
  induction session.journal using List.reverseRecOn with
  | nil => exact Nat.le_refl 0
  | append_singleton rest last ih =>
    rw [List.foldl_append]
    generalize List.foldl _ _ rest = tally at ih
    show (tally.add id last.activity).outermost ≤ (tally.add id last.activity).invocations
    cases last.activity with
    | settled eventType turn =>
      unfold Tally.add
      by_cases invoked : turn.invokes id = true
      · simp only [invoked, Bool.true_and, if_true]
        split <;> omega
      · simp only [invoked, Bool.false_and, Bool.false_eq_true, if_false]
        exact ih
    | _ => exact ih

end Session

/-! ### Invocations at a moment -/

/-- The receivers whose turns are not on record, as the frames have them. -/
def openTurns (frames : List (Frame κ)) : List (List (Registration κ)) :=
  (frames.map Frame.pending).filter (!·.isEmpty)

/-- Whether an invocation of the registration is counted, but not on record. -/
def Frame.owes (id : Nat) (frame : Frame κ) : Bool :=
  match frame.stage with
  | .finished turn => turn.invokes id
  | _ => false

/-- Whether a turn of the registration may yet be recorded as an invocation. -/
def Frame.admits (id : Nat) (frame : Frame κ) : Bool :=
  match frame.stage with
  | .between => false
  | .asked registration | .asking registration | .handling registration => registration.id = id
  | .finished turn => turn.invokes id

/-- The invocations of the registration that are counted, but not on record. -/
def owed (id : Nat) (frames : List (Frame κ)) : Nat :=
  frames.countP (·.owes id)

/-- The invocations of a registration keep to its limit, but for those inside another turn of it. -/
structure Limited (standing : Standing) (tally : Tally κ) (frames : List (Frame κ))
    (id limit : Nat) : Prop where
  remaining : standing.remaining = some (limit - (tally.invocations + owed id frames))
  live : standing.live = true → tally.invocations + owed id frames < limit
  bounded : tally.outermost ≤ limit
  /-- While a turn may yet become an invocation, there is room for it. -/
  room : frames.any (·.admits id) = true → tally.outermost < limit

/-- The journal agrees with the frames, and all registrations keep to their limits. -/
structure Moment.Limits (moment : Moment σ ε κ) : Prop where
  ordered : moment.Ordered
  running : ∀ id, (moment.session.tally id).running = openTurns moment.frames
  /-- Numbers that are not given out were not invoked. -/
  fresh : ∀ id, moment.session.bus.nextId ≤ id → (moment.session.tally id).invocations = 0
  limited : ∀ registration ∈ moment.session.enrolled, ∀ limit : Limit,
    registration.subscriber.limit = some limit →
      Limited (moment.session.bus.standing registration.id) (moment.session.tally registration.id)
        moment.frames registration.id limit

/-! ### Frames and registrations -/

theorem owed_cons (id : Nat) (frame : Frame κ) (outer : List (Frame κ)) :
    owed id (frame :: outer) = owed id outer + if frame.owes id then 1 else 0 :=
  List.countP_cons

theorem Frame.admits_of_owes {frame : Frame κ} {id : Nat} (owed : frame.owes id = true) :
    frame.admits id = true := by
  obtain ⟨eventType, stage, waiting⟩ := frame
  cases stage with
  | finished turn => exact owed
  | between | asked | asking | handling => cases owed

/-- Whose turn it is stands first among the receivers whose turns are not on record. -/
theorem Frame.serves_of_admits {frame : Frame κ} {id : Nat} (admits : frame.admits id = true) :
    Tally.serves id frame.pending = true := by
  obtain ⟨eventType, stage, waiting⟩ := frame
  cases stage with
  | between => cases admits
  | asked registration | asking registration | handling registration => exact admits
  | finished turn =>
    have both : turn.invokes id = true := admits
    unfold Turn.invokes at both
    exact (Bool.and_eq_true _ _ ▸ both).2

theorem Tally.exists_of_serves {pending : List (Registration κ)} {id : Nat}
    (served : serves id pending = true) : ∃ registration ∈ pending, registration.id = id := by
  cases pending with
  | nil => cases served
  | cons registration rest => exact ⟨registration, List.mem_cons_self, of_decide_eq_true served⟩

theorem any_serves_of_any_admits {outer : List (Frame κ)} {id : Nat}
    (admitted : outer.any (·.admits id) = true) :
    (openTurns outer).any (Tally.serves id) = true := by
  obtain ⟨frame, member, admits⟩ := List.any_eq_true.mp admitted
  have served := Frame.serves_of_admits admits
  have occupied : (!frame.pending.isEmpty) = true := by
    obtain ⟨registration, pending, -⟩ := Tally.exists_of_serves served
    cases empty : frame.pending with
    | nil =>
      rw [empty] at pending
      exact absurd pending List.not_mem_nil
    | cons first rest => rfl
  have among : frame.pending ∈ openTurns outer :=
    List.mem_filter.mpr ⟨List.mem_map_of_mem member, occupied⟩
  exact List.any_eq_true.mpr ⟨frame.pending, among, served⟩

/-- Nothing is counted, and no turn begins. -/
theorem Limited.congr {standing later : Standing} {tally : Tally κ} {frames others : List (Frame κ)}
    {id limit : Nat} (limited : Limited standing tally frames id limit)
    (remaining : later.remaining = standing.remaining)
    (lives : later.live = true → standing.live = true)
    (owes : owed id others = owed id frames)
    (admitted : others.any (·.admits id) = true → frames.any (·.admits id) = true) :
    Limited later tally others id limit where
  remaining := by
    rw [remaining, owes]
    exact limited.remaining
  live now := by
    rw [owes]
    exact limited.live (lives now)
  bounded := limited.bounded
  room serving := limited.room (admitted serving)

/-- An invocation is counted, and owed until it goes on record. The last one ends the
registration. -/
theorem Limited.count {standing later : Standing} {tally : Tally κ} {eventType : EventType}
    {registration : Registration κ} {rest : List (Registration κ)} {outer : List (Frame κ)}
    {limit : Nat}
    (limited : Limited standing tally (⟨eventType, .handling registration, rest⟩ :: outer)
      registration.id limit)
    (remaining : later.remaining = standing.invoke.remaining)
    (lives : later.live = true → standing.live = true)
    (last : standing.remaining = some 1 → later.live = false) :
    Limited later tally (⟨eventType, .finished ⟨registration, .invoked⟩, rest⟩ :: outer)
      registration.id limit := by
  have before : owed registration.id (⟨eventType, .handling registration, rest⟩ :: outer) =
      owed registration.id outer := owed_cons _ _ _
  have after : owed registration.id
      (⟨eventType, .finished ⟨registration, .invoked⟩, rest⟩ :: outer) =
        owed registration.id outer + 1 := by
    rw [owed_cons]
    simp [Frame.owes, Turn.invokes]
  have left := limited.remaining
  have few := limited.live
  rw [before] at left few
  have serving : (⟨eventType, .handling registration, rest⟩ :: outer : List (Frame κ)).any
      (·.admits registration.id) = true := by
    simp [Frame.admits]
  refine ⟨?_, fun now => ?_, limited.bounded, fun _ => limited.room serving⟩
  · rw [remaining, after]
    unfold Standing.invoke
    rw [left]
    rfl
  · -- had this been the last one, the registration would have ended
    have more : limit - (tally.invocations + owed registration.id outer) ≠ 1 := by
      intro one
      rw [last (left.trans (congrArg some one))] at now
      cases now
    have below := few (lives now)
    rw [after]
    omega

/-- An invocation that goes on record is no longer owed. If it was part of another turn of the
registration, that turn still holds its room. -/
theorem Limited.settle {standing : Standing} {tally : Tally κ} {eventType : EventType}
    {turn : Turn κ} {rest : List (Registration κ)} {outer : List (Frame κ)} {id limit : Nat}
    (limited : Limited standing tally (⟨eventType, .finished turn, rest⟩ :: outer) id limit)
    (running : tally.running = (turn.registration :: rest) :: openTurns outer) :
    Limited standing (tally.add id (.settled eventType turn : Activity ε κ))
      (⟨eventType, .between, rest⟩ :: outer) id limit := by
  obtain ⟨remaining, live, bounded, room⟩ := limited
  have invocations : (tally.add id (.settled eventType turn : Activity ε κ)).invocations =
      tally.invocations + if turn.invokes id then 1 else 0 := rfl
  have outermost : (tally.add id (.settled eventType turn : Activity ε κ)).outermost =
      tally.outermost +
        if turn.invokes id && !(openTurns outer).any (Tally.serves id) then 1 else 0 := by
    unfold Tally.add
    rw [running]
    rfl
  have sum : (tally.add id (.settled eventType turn : Activity ε κ)).invocations +
      owed id (⟨eventType, .between, rest⟩ :: outer) =
        tally.invocations + owed id (⟨eventType, .finished turn, rest⟩ :: outer) := by
    have before : owed id (⟨eventType, .finished turn, rest⟩ :: outer) =
        owed id outer + if turn.invokes id then 1 else 0 := owed_cons _ _ _
    have after : owed id (⟨eventType, .between, rest⟩ :: outer) = owed id outer :=
      owed_cons _ _ _
    rw [invocations, before, after]
    omega
  refine ⟨sum ▸ remaining, sum ▸ live, ?_, fun serving => ?_⟩
  · -- only a turn that is counted as outermost needs the room
    rw [outermost]
    split
    · rename_i counted
      exact room (Bool.or_eq_true _ _ ▸ .inl (Bool.and_eq_true _ _ ▸ counted).1)
    · exact bounded
  · have below : outer.any (·.admits id) = true := serving
    have nested := any_serves_of_any_admits below
    rw [outermost, nested, Bool.not_true, Bool.and_false, if_neg Bool.false_ne_true]
    exact room (Bool.or_eq_true _ _ ▸ .inr below)

namespace Moment

variable {frame next : Frame κ} {frames outer : List (Frame κ)} {session later : Session σ ε κ}

theorem Ordered.not_admits (ordered : Ordered ⟨frames, session⟩) {id : Nat}
    (fresh : session.bus.nextId ≤ id) : ∀ frame ∈ frames, ¬ frame.admits id = true := by
  intro frame member admits
  obtain ⟨registration, pending, same⟩ :=
    Tally.exists_of_serves (Frame.serves_of_admits admits)
  have enrolled := ordered.enrolled frame member registration pending
  have low := ordered.accounted.numbered registration enrolled
  rw [same] at low
  exact Nat.lt_irrefl _ (Nat.lt_of_lt_of_le low fresh)

/-- A new registration keeps to its limit, as it was never invoked. -/
theorem Ordered.limited_of_fresh (ordered : Ordered ⟨frames, session⟩) {id : Nat}
    (fresh : session.bus.nextId ≤ id) {standing : Standing} {tally : Tally κ} (limit : Limit)
    (remaining : standing.remaining = some limit.val) (none_yet : tally.invocations = 0)
    (outermost : tally.outermost ≤ tally.invocations) :
    Limited standing tally frames id limit := by
  have absent := ordered.not_admits fresh
  have none_owed : owed id frames = 0 := by
    unfold owed
    rw [List.countP_eq_zero]
    exact fun frame member owes => absent frame member (Frame.admits_of_owes owes)
  have positive := limit.property
  refine ⟨?_, fun _ => ?_, by omega, fun _ => by omega⟩
  · rw [remaining, none_yet, none_owed]
    rfl
  · rw [none_yet, none_owed]
    exact positive

namespace Limits

/-- The frames stay, and the invocations are the same. -/
theorem goes_on (limits : Limits ⟨frames, session⟩) (ordered : Ordered ⟨frames, later⟩)
    (tally : ∀ id, later.tally id = session.tally id)
    (nextId : session.bus.nextId ≤ later.bus.nextId)
    (each : ∀ registration ∈ later.enrolled,
      (registration ∈ session.enrolled ∧
        (later.bus.standing registration.id).remaining =
          (session.bus.standing registration.id).remaining ∧
        ((later.bus.standing registration.id).live = true →
          (session.bus.standing registration.id).live = true)) ∨
      (session.bus.nextId ≤ registration.id ∧
        (later.bus.standing registration.id).remaining =
          registration.subscriber.limit.map Subtype.val)) : Limits ⟨frames, later⟩ where
  ordered := ordered
  running id := by
    show (later.tally id).running = _
    rw [tally]
    exact limits.running id
  fresh id above := by
    show (later.tally id).invocations = 0
    rw [tally]
    exact limits.fresh id (Nat.le_trans nextId above)
  limited registration member limit has := by
    show Limited (later.bus.standing registration.id) (later.tally registration.id) _ _ _
    rw [tally]
    rcases each registration member with ⟨old, same, lives⟩ | ⟨new, whole⟩
    · exact (limits.limited registration old limit has).congr same lives rfl id
    · rw [has] at whole
      exact limits.ordered.limited_of_fresh new limit whole (limits.fresh _ new)
        (session.outermost_le_invocations _)

theorem operate (limits : Limits ⟨frames, session⟩) (ordered : Ordered ⟨frames, later⟩)
    {activities : List (Activity ε κ)} (extending : session.Extends later activities)
    (steps : ReflTransGen Session.Step session later) : Limits ⟨frames, later⟩ := by
  refine limits.goes_on ordered (fun _ => extending.tally) extending.nextId ?_
  intro registration member
  rw [extending.enrolled] at member
  rcases List.mem_append.mp member with old | new
  · have low := limits.ordered.accounted.numbered registration old
    exact .inl ⟨old, extending.remaining _ low,
      limits.ordered.accounted.live_of_steps steps old⟩
  · obtain ⟨fresh, -, whole⟩ := extending.made registration new
    exact .inr ⟨fresh, whole⟩

/-- Something is put on record that is neither a change nor a boundary. -/
theorem note (limits : Limits ⟨frames, session⟩) {activity : Activity ε κ}
    (plain : activity.isChange = false) (inside : activity.isBoundary = false) :
    Limits ⟨frames, session.record [activity]⟩ := by
  have ordered := limits.ordered.goes_on (.single (.note session activity plain)) rfl
  have tally : ∀ id, (session.record [activity]).tally id = session.tally id :=
    fun id => Session.tally_append rfl (List.forall_mem_singleton.mpr inside)
  refine limits.goes_on ordered tally (Nat.le_refl _) fun registration member => .inl ?_
  rw [Session.enrolled_record_of_none
    (List.filterMap_cons_none (Activity.enrolled?_of_plain plain))] at member
  exact ⟨member, rfl, id⟩

/-- A handler has ended, and its invocation is counted; the last one ends the registration. -/
theorem count {eventType : EventType} {registration : Registration κ}
    {rest : List (Registration κ)}
    (limits : Limits ⟨⟨eventType, .handling registration, rest⟩ :: outer, session⟩)
    (ordered : Ordered ⟨⟨eventType, .finished ⟨registration, .invoked⟩, rest⟩ :: outer,
      (Run.on (Dispatch.countInvocation registration) session).2⟩) :
    Limits ⟨⟨eventType, .finished ⟨registration, .invoked⟩, rest⟩ :: outer,
      (Run.on (Dispatch.countInvocation registration) session).2⟩ := by
  have steps := Dispatch.advances_countInvocation registration session
  have accounted := limits.ordered.accounted
  have enrolled : registration ∈ session.enrolled :=
    limits.ordered.enrolled _ List.mem_cons_self _ List.mem_cons_self
  have alive : session.bus.isAlive = true := by
    have running : session.bus.running = outer.length + 1 := limits.ordered.running
    unfold Bus.isAlive
    rw [running]
    simp
  have last := accounted.not_live_of_last alive enrolled
  obtain ⟨activities, extending⟩ := Dispatch.extends_countInvocation registration session
  generalize (Run.on (Dispatch.countInvocation registration) session).2 = later at *
  have tally : ∀ id, later.tally id = session.tally id := fun id => extending.tally
  refine ⟨ordered, fun id => ?_, fun id above => ?_, fun other member limit has => ?_⟩
  · dsimp only
    rw [tally]
    exact limits.running id
  · dsimp only
    rw [tally]
    exact limits.fresh id (Nat.le_trans extending.nextId above)
  · dsimp only at member ⊢
    rw [tally]
    rw [extending.enrolled] at member
    rcases List.mem_append.mp member with old | new
    · have remaining := extending.remaining other.id (accounted.numbered other old)
      replace remaining := remaining.trans
        (congrArg _ (Bus.standing_countInvocation session.bus registration.id other.id))
      have lives := accounted.live_of_steps steps old
      have limited := limits.limited other old limit has
      by_cases same : other.id = registration.id
      · obtain rfl := accounted.eq_of_id old enrolled same
        rw [if_pos rfl] at remaining
        exact limited.count remaining lives last
      · rw [if_neg same] at remaining
        have apart : decide (registration.id = other.id) = false :=
          decide_eq_false fun equal => same equal.symm
        refine limited.congr remaining lives ?_ ?_
        · simp [owed_cons, Frame.owes, Turn.invokes, apart]
        · simp [Frame.admits, Turn.invokes, apart]
    · obtain ⟨fresh, -, whole⟩ := extending.made other new
      rw [has] at whole
      have moved : Ordered
          ⟨⟨eventType, .finished ⟨registration, .invoked⟩, rest⟩ :: outer, session⟩ :=
        limits.ordered.replace fun _ member => member
      exact moved.limited_of_fresh fresh limit whole (limits.fresh _ fresh)
        (session.outermost_le_invocations _)

/-- The innermost dispatch moves on. A turn begins only while the receiver is live. -/
theorem replace (limits : Limits ⟨frame :: outer, session⟩)
    (pending : next.pending = frame.pending) (owes : ∀ id, next.owes id = frame.owes id)
    (admits : ∀ id, next.admits id = true →
      frame.admits id = true ∨ (session.bus.standing id).live = true) :
    Limits ⟨next :: outer, session⟩ where
  ordered := limits.ordered.replace fun _ member => pending ▸ member
  running id := by
    rw [limits.running]
    unfold openTurns
    rw [List.map_cons, List.map_cons, pending]
  fresh := limits.fresh
  limited registration member limit has := by
    obtain ⟨remaining, live, bounded, room⟩ := limits.limited registration member limit has
    have same : owed registration.id (next :: outer) = owed registration.id (frame :: outer) := by
      rw [owed_cons, owed_cons, owes]
    refine ⟨same ▸ remaining, same ▸ live, bounded, fun serving => ?_⟩
    rw [List.any_cons, Bool.or_eq_true] at serving room
    rcases serving with top | below
    · rcases admits _ top with before | now
      · exact room (.inl before)
      · have few := Nat.lt_of_le_of_lt (Nat.le_add_right _ _) (live now)
        exact Nat.lt_of_le_of_lt (session.outermost_le_invocations _) few
    · exact room (.inr below)

theorem enter (limits : Limits ⟨frames, session⟩) (eventType : EventType)
    {receivers : List (Registration κ)} (occupied : receivers ≠ [])
    (ordered : Ordered ⟨⟨eventType, .between, receivers⟩ :: frames,
      (session.withRunning (session.bus.running + 1)).record [.began eventType receivers]⟩) :
    Limits ⟨⟨eventType, .between, receivers⟩ :: frames,
      (session.withRunning (session.bus.running + 1)).record [.began eventType receivers]⟩ := by
  have tally : ∀ id, ((session.withRunning (session.bus.running + 1)).record
      [.began eventType receivers]).tally id =
        { session.tally id with running := receivers :: (session.tally id).running } :=
    fun id => Session.tally_record _ _ id
  refine ⟨ordered, fun id => ?_, fun id above => ?_, fun registration member limit has => ?_⟩
  · dsimp only
    rw [tally, limits.running]
    unfold openTurns
    rw [List.map_cons, List.filter_cons_of_pos]
    · rfl
    · cases receivers with
      | nil => exact absurd rfl occupied
      | cons first rest => rfl
  · dsimp only
    rw [tally]
    exact limits.fresh id above
  · dsimp only at member ⊢
    rw [Session.enrolled_record_of_none rfl] at member
    obtain ⟨remaining, live, bounded, room⟩ := limits.limited registration member limit has
    rw [tally]
    exact ⟨remaining, live, bounded, room⟩

theorem leave {eventType : EventType}
    (limits : Limits ⟨⟨eventType, .between, []⟩ :: outer, session⟩) {running : Nat}
    (ordered : Ordered ⟨outer, session.withRunning running⟩) :
    Limits ⟨outer, session.withRunning running⟩ where
  ordered := ordered
  running := limits.running
  fresh := limits.fresh
  limited registration member limit has := by
    obtain ⟨remaining, live, bounded, room⟩ := limits.limited registration member limit has
    exact ⟨remaining, live, bounded, room⟩

/-- A turn is put on record. An invocation is counted as one, and no longer owed. -/
theorem settle {eventType : EventType} {turn : Turn κ} {rest : List (Registration κ)}
    (limits : Limits ⟨⟨eventType, .finished turn, rest⟩ :: outer, session⟩)
    (ordered : Ordered ⟨⟨eventType, .between, rest⟩ :: outer,
      session.record [.settled eventType turn]⟩) :
    Limits ⟨⟨eventType, .between, rest⟩ :: outer,
      session.record [.settled eventType turn]⟩ := by
  have open_before : ∀ id, (session.tally id).running =
      (turn.registration :: rest) :: openTurns outer := limits.running
  have enrolled : turn.registration ∈ session.enrolled :=
    limits.ordered.enrolled _ List.mem_cons_self _ List.mem_cons_self
  refine ⟨ordered, fun id => ?_, fun id above => ?_, fun registration member limit has => ?_⟩
  · dsimp only
    rw [Session.tally_record]
    show Tally.settle (session.tally id).running = _
    rw [open_before]
    unfold openTurns Tally.settle
    rw [List.map_cons]
    cases rest with
    | nil => rfl
    | cons first others => rfl
  · dsimp only
    rw [Session.tally_record]
    show (session.tally id).invocations + _ = 0
    have other : turn.invokes id = false := by
      have low := limits.ordered.accounted.numbered _ enrolled
      have high : session.bus.nextId ≤ id := above
      have different : turn.registration.id ≠ id := Nat.ne_of_lt (Nat.lt_of_lt_of_le low high)
      unfold Turn.invokes
      rw [decide_eq_false different, Bool.and_false]
    rw [other, limits.fresh id above]
    rfl
  · dsimp only at member ⊢
    rw [Session.enrolled_record_of_none rfl] at member
    rw [Session.tally_record]
    exact (limits.limited registration member limit has).settle (open_before _)

end Limits

end Moment

theorem Move.limits {moment later : Moment σ ε κ} (move : Move moment later)
    (limits : moment.Limits) : later.Limits := by
  have steps := move.steps
  have ordered := move.ordered limits.ordered
  cases move with
  | operate control operation =>
    obtain ⟨activities, extending⟩ := operation.extends
    exact limits.operate ordered extending steps
  | enter control known occupied => exact limits.enter _ occupied ordered
  | accept live =>
    refine limits.replace rfl (fun _ => rfl) fun id admits => .inr ?_
    rw [← of_decide_eq_true admits]
    exact live
  | @decline _ session _ registration _ verdict why =>
    have passed : verdict ≠ .invoked := by
      rw [why]
      split <;> exact Verdict.noConfusion
    have uncounted : ∀ id, Turn.invokes ⟨registration, verdict⟩ id = false := by
      intro id
      unfold Turn.invokes
      rw [decide_eq_false passed, Bool.false_and]
    refine limits.replace rfl uncounted fun id admits => ?_
    have invoked : Turn.invokes ⟨registration, verdict⟩ id = true := admits
    rw [uncounted id] at invoked
    cases invoked
  | ask => exact limits.replace rfl (fun _ => rfl) fun _ admits => .inl admits
  | answer check event holds =>
    exact (limits.note rfl rfl).replace rfl (fun _ => rfl) fun _ admits => .inl admits
  | panic check event payload =>
    exact (limits.note rfl rfl).replace rfl (fun _ => rfl) fun _ admits => nomatch admits
  | refuse => exact limits.replace rfl (fun _ => rfl) fun _ admits => nomatch admits
  | expire =>
    obtain ⟨activities, extending⟩ := Session.extends_of_operations (Run.operates_revoke _ _)
    have goes_on := limits.operate (limits.ordered.goes_on steps extending.running) extending steps
    exact goes_on.replace rfl (fun _ => rfl) fun _ admits => nomatch admits
  | start event =>
    exact (limits.note rfl rfl).replace rfl (fun _ => rfl) fun _ admits => .inl admits
  | fail failure => exact limits.replace rfl (fun _ => rfl) fun _ admits => nomatch admits
  | count => exact limits.count ordered
  | settle => exact limits.settle ordered
  | leave => exact limits.leave ordered

theorem limits_of_moves {hierarchy : Hierarchy} {memory : σ} {moment : Moment σ ε κ}
    (moves : ReflTransGen Move ⟨[], .start hierarchy memory⟩ moment) : moment.Limits := by
  induction moves with
  | refl =>
    refine ⟨ordered_of_moves .refl, fun _ => rfl, fun _ _ => rfl, fun registration member => ?_⟩
    exact absurd member List.not_mem_nil
  | tail _ move ih => exact move.limits ih

namespace Session

/-- **A limit holds for the invocations that are not part of another turn of the registration**, in
every run and at every depth. As long as the registration is live, it holds for all of them. -/
theorem outermost_le_limit [Event ε] {hierarchy : Hierarchy} {memory : σ}
    {session : Session σ ε κ} (reached : Reached hierarchy memory session)
    {registration : Registration κ} (member : registration ∈ session.enrolled) {limit : Limit}
    (has : registration.subscriber.limit = some limit) :
    (session.tally registration.id).outermost ≤ limit.val ∧
      ((session.bus.standing registration.id).live = true →
        (session.tally registration.id).invocations < limit.val) := by
  obtain ⟨frames, moves⟩ := reached.moves
  have limited := (limits_of_moves moves).limited registration member limit has
  refine ⟨limited.bounded, fun live => ?_⟩
  exact Nat.lt_of_le_of_lt (Nat.le_add_right _ _) (limited.live live)

end Session

/-! ### A handler that dispatches its own event once more -/

namespace Reentrant

def hierarchy : Hierarchy :=
  .ofDeclared (.singleton ⟨"part"⟩ [])

/-- The memory tells whether the handler has run before. -/
def program : Program Bool Signal Unit where
  test _ _ := .done true
  handle _ _ _ := .ask (.plain .memory) fun again : Bool =>
    if again then .done (.ok ())
    else .ask (.plain (.remember true)) fun _ => .ask .redispatch fun _ => .done (.ok ())

def registration : Registration Unit where
  id := 1
  eventType := ⟨"part"⟩
  subscriber := { Subscriber.ofHandler () with limit := some ⟨1, by decide⟩ }

def script : Script (Request Bool Signal Unit) Request.Answer Unit :=
  .ask (.subscribeTo ⟨"part"⟩ registration.subscriber) fun _ =>
    .ask (.dispatch { eventType := ⟨"part"⟩ }) fun _ => .done ()

def session : Session Bool Signal Unit :=
  (Session.play program 2 hierarchy false script).2

theorem enrolled : registration ∈ session.enrolled := by
  have single : session.enrolled = [registration] := by cbv
  rw [single]
  exact List.mem_singleton.mpr rfl

theorem invoked_twice : (session.tally registration.id).invocations = 2 := by
  cbv

/-- One of the two invocations was inside the other. -/
theorem outermost_reentrant : (session.tally registration.id).invocations = 2 ∧
    (session.tally registration.id).outermost ≤ 1 ∧
    (session.bus.standing registration.id).live = false := by
  have reached : Session.Reached hierarchy false session := ⟨program, 2, script, rfl⟩
  have limit : registration.subscriber.limit = some ⟨1, by decide⟩ := rfl
  obtain ⟨outermost, few⟩ := Session.outermost_le_limit reached enrolled limit
  refine ⟨invoked_twice, outermost, ?_⟩
  rw [← Bool.not_eq_true]
  intro live
  have one := few live
  rw [invoked_twice] at one
  exact absurd one (by decide)

/-- **Counted all together, the invocations can be more than the limit.** -/
theorem invocations_exceed_limit :
    ¬ ∀ (session : Session Bool Signal Unit), Session.Reached hierarchy false session →
      ∀ registration ∈ session.enrolled, ∀ limit : Limit,
        registration.subscriber.limit = some limit →
          (session.tally registration.id).invocations ≤ limit.val := by
  intro bounded
  have two := bounded session ⟨program, 2, script, rfl⟩ registration enrolled _ rfl
  rw [invoked_twice] at two
  exact absurd two (by decide)

end Reentrant

end ExtensionHost
