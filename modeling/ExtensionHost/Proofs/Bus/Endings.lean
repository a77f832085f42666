/-
**When a registration has ended, its handler is started only in a turn that had begun before.**

A dispatch looks at a registration once, when its turn begins. From then on its own predicates are
asked, and what these do to it is not looked at again before the handler is started.

* `InTurn`: a turn of a registration that had not ended when the turn began.
* `AnsweredAfterEnd`: if it has ended since, one of its predicates has answered after that.
* `Moment.Timely`: at every moment, all turns are of this kind until the handler is started.
* `starts_in_turn`: so is every turn in which a handler is started, in every run.
-/

import ExtensionHost.Proofs.Bus.Frames
import Mathlib.Data.List.Induction

namespace ExtensionHost

open Relation (ReflTransGen)

variable {σ ε κ : Type}

/-! ### Turns in the journal -/

/-- Whether an entry tells of a handler that was started. -/
def Activity.isStart : Activity ε κ → Bool
  | handling _ _ => true
  | _ => false

/-- Whether the next turn of the dispatch at this depth comes after the entry. -/
def Entry.Opens (entry : Entry ε κ) (depth : Nat) : Prop :=
  entry.depth = depth ∧ entry.activity.isBoundary = true

/-- Whether one of the receiver's predicates has answered in a dispatch at this depth. -/
def Entry.Answers (entry : Entry ε κ) (depth : Nat) (registration : Registration κ) : Prop :=
  entry.depth = depth ∧
    ∃ check event holds, entry.activity = .tested registration check event (.ok holds)

/-- The entries `turn` are those of one turn in the dispatch at this depth, so far, and the receiver
had not ended in the entries before. -/
structure InTurn (depth : Nat) (registration : Registration κ) (before turn : List (Entry ε κ)) :
    Prop where
  opened : ∃ earlier last, before = earlier ++ [last] ∧ last.Opens depth
  unbroken : ∀ entry ∈ turn, ¬ entry.Opens depth
  standing : ∀ entry ∈ before, entry.activity.ended? ≠ some registration

/-- Wherever the receiver has ended, one of its predicates has answered afterwards. -/
def AnsweredAfterEnd (depth : Nat) (registration : Registration κ) (turn : List (Entry ε κ)) :
    Prop :=
  ∀ earlier last later, turn = earlier ++ last :: later →
    last.activity.ended? = some registration → ∃ answer ∈ later, answer.Answers depth registration

/-- Every handler is started in a turn of this kind. -/
def StartsInTurn (journal : List (Entry ε κ)) : Prop :=
  ∀ earlier start registration event, earlier ++ [start] <+: journal →
    start.activity = .handling registration event →
      ∃ before turn, earlier = before ++ turn ∧ InTurn start.depth registration before turn ∧
        AnsweredAfterEnd start.depth registration turn

section

variable {depth : Nat} {registration : Registration κ}
  {before turn added journal : List (Entry ε κ)}

theorem Activity.isStart_of_isChange {activity : Activity ε κ}
    (change : activity.isChange = true) : activity.isStart = false := by
  cases activity <;> first | rfl | cases change

theorem InTurn.append (inTurn : InTurn depth registration before turn)
    (apart : ∀ entry ∈ added, ¬ entry.Opens depth) :
    InTurn depth registration before (turn ++ added) where
  opened := inTurn.opened
  unbroken entry member :=
    (List.mem_append.mp member).elim (inTurn.unbroken entry) (apart entry)
  standing := inTurn.standing

/-- After an answer it does not matter when the receiver has ended. -/
theorem answeredAfterEnd_concat {answer : Entry ε κ} (answers : answer.Answers depth registration) :
    AnsweredAfterEnd depth registration (turn ++ [answer]) := by
  intro earlier last later split ended
  rcases List.eq_nil_or_concat' later with rfl | ⟨rest, final, rfl⟩
  · -- the answer itself tells of no end
    obtain ⟨-, same⟩ := List.append_inj' split rfl
    obtain ⟨-, check, event, holds, tested⟩ := answers
    rw [← (List.cons.inj same).1, tested] at ended
    cases ended
  · refine ⟨answer, List.mem_append_right _ ?_, answers⟩
    have ends : turn ++ [answer] = (earlier ++ last :: rest) ++ [final] := by
      rw [split]
      simp
    rw [(List.cons.inj (List.append_inj' ends rfl).2).1]
    exact List.mem_singleton.mpr rfl

theorem prefix_or_mem {earlier : List (Entry ε κ)} {start : Entry ε κ}
    (reaches : earlier ++ [start] <+: journal ++ added) :
    earlier ++ [start] <+: journal ∨ start ∈ added := by
  induction added using List.reverseRecOn with
  | nil =>
    rw [List.append_nil] at reaches
    exact .inl reaches
  | append_singleton rest last ih =>
    rw [← List.append_assoc, List.prefix_concat_iff] at reaches
    rcases reaches with whole | within
    · obtain ⟨-, same⟩ := List.append_inj' whole rfl
      rw [(List.cons.inj same).1]
      exact .inr (List.mem_append_right _ (List.mem_singleton.mpr rfl))
    · exact (ih within).imp_right (List.mem_append_left _)

theorem StartsInTurn.append (starts : StartsInTurn journal)
    (none_started : ∀ entry ∈ added, entry.activity.isStart = false) :
    StartsInTurn (journal ++ added) := by
  intro earlier start registration event reaches handling
  rcases prefix_or_mem reaches with older | newer
  · exact starts earlier start registration event older handling
  · have quiet := none_started start newer
    rw [handling] at quiet
    cases quiet

theorem StartsInTurn.concat (starts : StartsInTurn (before ++ turn))
    (inTurn : InTurn depth registration before turn)
    (answered : AnsweredAfterEnd depth registration turn) (event : ε) :
    StartsInTurn (before ++ turn ++ [⟨depth, .handling registration event⟩]) := by
  intro earlier start other event reaches handling
  rcases List.prefix_concat_iff.mp reaches with whole | within
  · obtain ⟨rfl, same⟩ := List.append_inj' whole rfl
    obtain rfl := (List.cons.inj same).1
    obtain ⟨rfl, -⟩ := Activity.handling.inj handling
    exact ⟨before, turn, rfl, inTurn, answered⟩
  · exact starts earlier start other event within handling

end

/-! ### Turns that have begun -/

/-- What is known of the turn in a dispatch at this depth until the handler is started. -/
def Stage.Timely (journal : List (Entry ε κ)) (depth : Nat) : Stage κ → Prop
  | between => ∃ earlier last, journal = earlier ++ [last] ∧ last.Opens depth
  | asked registration => ∃ before turn, journal = before ++ turn ∧
      InTurn depth registration before turn ∧ AnsweredAfterEnd depth registration turn
  | asking registration => ∃ before turn, journal = before ++ turn ∧
      InTurn depth registration before turn
  | handling _ | finished _ => True

theorem timely_answer {journal : List (Entry ε κ)} {depth : Nat} {registration : Registration κ}
    {answer : Entry ε κ} (asking : (Stage.asking registration).Timely journal depth)
    (answers : answer.Answers depth registration) :
    (Stage.asked registration).Timely (journal ++ [answer]) depth := by
  obtain ⟨before, turn, rfl, inTurn⟩ := asking
  refine ⟨before, turn ++ [answer], List.append_assoc _ _ _, inTurn.append ?_,
    answeredAfterEnd_concat answers⟩
  rintro entry member ⟨-, boundary⟩
  obtain ⟨-, check, event, holds, tested⟩ := answers
  rw [List.mem_singleton.mp member, tested] at boundary
  cases boundary

/-- The same for all dispatches, the outermost of which is at depth one. -/
def TimelyFrames (journal : List (Entry ε κ)) : List (Frame κ) → Prop
  | [] => True
  | frame :: outer =>
    frame.stage.Timely journal (outer.length + 1) ∧ TimelyFrames journal outer

/-- Dispatches that have called code do not mind what happens at greater depths. -/
theorem TimelyFrames.append {journal added : List (Entry ε κ)} {frames : List (Frame κ)}
    (timely : TimelyFrames journal frames)
    (called : ∀ frame ∈ frames, frame.stage.runsCode = true)
    (deeper : ∀ entry ∈ added, ∀ depth ≤ frames.length, ¬ entry.Opens depth) :
    TimelyFrames (journal ++ added) frames := by
  induction frames with
  | nil => exact trivial
  | cons frame outer ih =>
    obtain ⟨top, rest⟩ := timely
    refine ⟨?_, ih rest (fun other member => called other (List.mem_cons_of_mem _ member)) ?_⟩
    · have apart : ∀ entry ∈ added, ¬ entry.Opens (outer.length + 1) :=
        fun entry member => deeper entry member _ (Nat.le_refl _)
      have runs := called frame List.mem_cons_self
      generalize frame.stage = stage at top runs ⊢
      cases stage with
      | between | asked | finished => cases runs
      | handling registration => exact trivial
      | asking registration =>
        obtain ⟨before, turn, rfl, inTurn⟩ := top
        exact ⟨before, turn ++ added, List.append_assoc _ _ _, inTurn.append apart⟩
    · exact fun entry member depth shallow =>
        deeper entry member depth (Nat.le_succ_of_le shallow)

/-- The turns that have begun are timely, and so were those in which a handler was started. -/
structure Moment.Timely (moment : Moment σ ε κ) : Prop where
  ordered : moment.Ordered
  frames : TimelyFrames moment.session.journal moment.frames
  starts : StartsInTurn moment.session.journal

namespace Moment.Timely

variable {frame next : Frame κ} {frames outer : List (Frame κ)} {session later : Session σ ε κ}
  {activities : List (Activity ε κ)} {registration : Registration κ}

theorem operate (timely : Timely ⟨frames, session⟩) (control : InControl frames)
    (ordered : Ordered ⟨frames, later⟩) (extending : session.Extends later activities) :
    Timely ⟨frames, later⟩ := by
  have made : ∀ entry ∈ session.entries activities, entry.activity.isChange = true := by
    intro entry member
    obtain ⟨activity, among, rfl⟩ := List.mem_map.mp member
    exact extending.changes activity among
  refine ⟨ordered, ?_, ?_⟩
  · rw [extending.journal]
    refine timely.frames.append (timely.ordered.all_called control) ?_
    rintro entry member depth - ⟨-, boundary⟩
    rw [Activity.isBoundary_of_isChange (made entry member)] at boundary
    cases boundary
  · rw [extending.journal]
    exact timely.starts.append fun entry member => Activity.isStart_of_isChange (made entry member)

/-- The innermost dispatch moves on, and puts something on record at its own depth. -/
theorem proceed (timely : Timely ⟨frame :: outer, session⟩)
    (ordered : Ordered ⟨next :: outer, later⟩)
    (journal : later.journal = session.journal ++ session.entries activities)
    (top : next.stage.Timely (session.journal ++ session.entries activities) (outer.length + 1))
    (starts : StartsInTurn (session.journal ++ session.entries activities)) :
    Timely ⟨next :: outer, later⟩ := by
  refine ⟨ordered, ?_, journal ▸ starts⟩
  show TimelyFrames later.journal (next :: outer)
  rw [journal]
  refine ⟨top, timely.frames.2.append timely.ordered.called ?_⟩
  rintro entry member depth shallow ⟨same, -⟩
  obtain ⟨activity, -, rfl⟩ := List.mem_map.mp member
  have running : session.bus.running = outer.length + 1 := timely.ordered.running
  have deep : session.bus.running = depth := same
  omega

/-- The same without a handler being started. -/
theorem proceed_quietly (timely : Timely ⟨frame :: outer, session⟩)
    (ordered : Ordered ⟨next :: outer, later⟩)
    (journal : later.journal = session.journal ++ session.entries activities)
    (top : next.stage.Timely (session.journal ++ session.entries activities) (outer.length + 1))
    (quiet : ∀ activity ∈ activities, activity.isStart = false) :
    Timely ⟨next :: outer, later⟩ := by
  refine timely.proceed ordered journal top (timely.starts.append fun entry member => ?_)
  obtain ⟨activity, among, rfl⟩ := List.mem_map.mp member
  exact quiet activity among

/-- The same with nothing put on record. -/
theorem proceed_silently (timely : Timely ⟨frame :: outer, session⟩)
    (ordered : Ordered ⟨next :: outer, session⟩)
    (top : next.stage.Timely session.journal (outer.length + 1)) :
    Timely ⟨next :: outer, session⟩ :=
  ⟨ordered, ⟨top, timely.frames.2⟩, timely.starts⟩

/-- A turn begins: the receiver is live, and so it has not ended. -/
theorem accept {eventType : EventType} {rest : List (Registration κ)}
    (timely : Timely ⟨⟨eventType, .between, registration :: rest⟩ :: outer, session⟩)
    (live : (session.bus.standing registration.id).live = true) :
    (Stage.asked registration).Timely session.journal (outer.length + 1) := by
  have enrolled : registration ∈ session.enrolled :=
    timely.ordered.enrolled _ List.mem_cons_self registration List.mem_cons_self
  have kept := (timely.ordered.accounted.live_iff registration enrolled).mp live
  refine ⟨session.journal, [], (List.append_nil _).symm, ⟨timely.frames.1, ?_, ?_⟩, ?_⟩
  · exact fun _ member => absurd member List.not_mem_nil
  · exact fun entry member ended => kept (List.mem_filterMap.mpr ⟨entry, member, ended⟩)
  · intro earlier last later split
    exact absurd split.symm (List.append_ne_nil_of_right_ne_nil _ (List.cons_ne_nil _ _))

end Moment.Timely

theorem timely_enter {eventType : EventType} {receivers : List (Registration κ)}
    {frames : List (Frame κ)} {session later : Session σ ε κ}
    (timely : Moment.Timely ⟨frames, session⟩) (control : InControl frames)
    (ordered : Moment.Ordered ⟨⟨eventType, .between, receivers⟩ :: frames, later⟩)
    (journal : later.journal =
      session.journal ++ [⟨session.bus.running + 1, .began eventType receivers⟩]) :
    Moment.Timely ⟨⟨eventType, .between, receivers⟩ :: frames, later⟩ := by
  have running : session.bus.running = frames.length := timely.ordered.running
  refine ⟨ordered, ?_, ?_⟩
  · show TimelyFrames later.journal (⟨eventType, .between, receivers⟩ :: frames)
    rw [journal]
    refine ⟨⟨_, _, rfl, congrArg (· + 1) running, rfl⟩, ?_⟩
    refine timely.frames.append (timely.ordered.all_called control) ?_
    rintro entry member depth shallow ⟨same, -⟩
    obtain rfl := List.mem_singleton.mp member
    have deep : session.bus.running + 1 = depth := same
    have low : depth ≤ frames.length := shallow
    omega
  · show StartsInTurn later.journal
    rw [journal]
    exact timely.starts.append (List.forall_mem_singleton.mpr rfl)

theorem Move.timely {moment later : Moment σ ε κ} (move : Move moment later)
    (timely : moment.Timely) : later.Timely := by
  have ordered := move.ordered timely.ordered
  cases move with
  | operate control operation =>
    obtain ⟨activities, extending⟩ := operation.extends
    exact timely.operate control ordered extending
  | enter control known occupied => exact timely_enter timely control ordered rfl
  | accept live => exact timely.proceed_silently ordered (timely.accept live)
  | decline | refuse | fail => exact timely.proceed_silently ordered trivial
  | ask =>
    obtain ⟨before, turn, same, inTurn, -⟩ := timely.frames.1
    exact timely.proceed_silently ordered ⟨before, turn, same, inTurn⟩
  | answer check event holds =>
    have running := timely.ordered.running
    exact timely.proceed_quietly ordered rfl
      (timely_answer timely.frames.1 ⟨running, check, event, holds, rfl⟩)
      (List.forall_mem_singleton.mpr rfl)
  | panic check event payload =>
    exact timely.proceed_quietly ordered rfl trivial (List.forall_mem_singleton.mpr rfl)
  | expire =>
    obtain ⟨activities, extending⟩ := Session.extends_of_operations (Run.operates_revoke _ _)
    refine timely.proceed_quietly ordered extending.journal trivial fun activity member => ?_
    exact Activity.isStart_of_isChange (extending.changes activity member)
  | start event =>
    obtain ⟨before, turn, same, inTurn, answered⟩ := timely.frames.1
    have running := timely.ordered.running
    have starts := timely.starts
    refine timely.proceed ordered rfl trivial ?_
    dsimp only at same running starts ⊢
    rw [same] at starts ⊢
    unfold Session.entries
    rw [List.map_singleton, running]
    exact starts.concat inTurn answered event
  | count =>
    obtain ⟨activities, extending⟩ := Dispatch.extends_countInvocation _ _
    refine timely.proceed_quietly ordered extending.journal trivial fun activity member => ?_
    exact Activity.isStart_of_isChange (extending.changes activity member)
  | settle =>
    have running := timely.ordered.running
    exact timely.proceed_quietly ordered rfl ⟨_, _, rfl, running, rfl⟩
      (List.forall_mem_singleton.mpr rfl)
  | leave =>
    exact ⟨ordered, timely.frames.2, timely.starts⟩

theorem timely_of_moves {hierarchy : Hierarchy} {memory : σ} {moment : Moment σ ε κ}
    (moves : ReflTransGen Move ⟨[], .start hierarchy memory⟩ moment) : moment.Timely := by
  induction moves with
  | refl =>
    refine ⟨ordered_of_moves .refl, trivial, fun earlier start registration event reaches => ?_⟩
    exact absurd (List.prefix_nil.mp reaches)
      (List.append_ne_nil_of_right_ne_nil _ (List.cons_ne_nil _ _))
  | tail _ move ih => exact move.timely ih

namespace Session

/-- **A handler is started only in a turn that began before its registration ended**, in every run
and at every depth. If it has ended during the turn, the end came while its own predicates were
asked, and one of them has answered afterwards. An end is on record exactly for those registrations
that are no longer live. -/
theorem starts_in_turn [Event ε] {hierarchy : Hierarchy} {memory : σ} {session : Session σ ε κ}
    (reached : Reached hierarchy memory session) :
    (∀ registration ∈ session.enrolled,
      (session.bus.standing registration.id).live = false ↔ registration ∈ session.ended) ∧
    ∀ earlier start registration event, earlier ++ [start] <+: session.journal →
      start.activity = .handling registration event →
        ∃ before turn, earlier = before ++ turn ∧ InTurn start.depth registration before turn ∧
          AnsweredAfterEnd start.depth registration turn := by
  obtain ⟨frames, moves⟩ := reached.moves
  have timely := timely_of_moves moves
  refine ⟨fun registration member => ?_, timely.starts⟩
  have live := timely.ordered.accounted.live_iff registration member
  rw [← Bool.not_eq_true, live, not_not]

end Session

/-! ### A filter that revokes its own registration -/

namespace Withdrawn

def hierarchy : Hierarchy :=
  .ofDeclared (.singleton ⟨"part"⟩ [])

/-- The one predicate revokes the first registration, and holds. -/
def program : Program Unit Signal Unit where
  test _ _ := .ask (.revoke ⟨⟨"part"⟩, 1⟩) fun _ => .done true
  handle _ _ _ := .done (.ok ())

def registration : Registration Unit where
  id := 1
  eventType := ⟨"part"⟩
  subscriber := { Subscriber.ofHandler () with filters := [()] }

def script : Script (Request Unit Signal Unit) Request.Answer Unit :=
  .ask (.subscribeTo ⟨"part"⟩ registration.subscriber) fun _ =>
    .ask (.dispatch { eventType := ⟨"part"⟩ }) fun _ => .done ()

def session : Session Unit Signal Unit :=
  (Session.play program 1 hierarchy () script).2

/-- The journal up to the start of the handler. -/
def earlier : List (Entry Signal Unit) :=
  [⟨0, .subscribed registration⟩, ⟨0, .collected ⟨"part"⟩ 1 [registration]⟩,
    ⟨1, .began ⟨"part"⟩ [registration]⟩, ⟨1, .revoked registration⟩,
    ⟨1, .tested registration (.filter 0) { eventType := ⟨"part"⟩ } (.ok true)⟩]

/-- The start of the handler. -/
def start : Entry Signal Unit :=
  ⟨1, .handling registration { eventType := ⟨"part"⟩ }⟩

theorem started : earlier ++ [start] <+: session.journal :=
  ⟨[⟨1, .settled ⟨"part"⟩ ⟨registration, .invoked⟩⟩], by cbv⟩

/-- The registration had ended, in its turn, and the filter has answered. -/
theorem turn_withdrawn : registration ∈ session.ended ∧ ∃ before turn, earlier = before ++ turn ∧
    InTurn 1 registration before turn ∧ AnsweredAfterEnd 1 registration turn := by
  have reached : Session.Reached hierarchy () session := ⟨program, 1, script, rfl⟩
  obtain ⟨live_iff, starts⟩ := Session.starts_in_turn reached
  refine ⟨(live_iff registration ?_).mp (by cbv), starts earlier start _ _ started rfl⟩
  exact List.mem_filterMap.mpr ⟨_, started.subset List.mem_cons_self, rfl⟩

/-- **A handler can be started after its registration has ended.** -/
theorem started_after_end :
    ¬ ∀ (session : Session Unit Signal Unit), Session.Reached hierarchy () session →
      ∀ earlier start registration event, earlier ++ [start] <+: session.journal →
        start.activity = .handling registration event →
          ∀ entry ∈ earlier, entry.activity.ended? ≠ some registration := by
  intro final
  have kept := final session ⟨program, 1, script, rfl⟩ earlier start _ _ started rfl
  exact kept ⟨1, .revoked registration⟩ (by simp [earlier]) rfl

end Withdrawn

end ExtensionHost
