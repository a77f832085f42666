/-
**The turns of one dispatch, with all that happens inside them.**

The receivers of a dispatch have their turns one after the other. Each turn gets the event and the
session as the turns before have left them, whatever the code in these has done.

* `Dispatch.Comes`: a dispatch has come to the turn of one of its receivers.
* `exists_comes_of_endless`, `comes_of_ended`, `Comes.has_turn`: a dispatch that does not end has
  come to a turn that does not end either, and the outcome of one that ends is made of its turns.
* `leads_turns`, `Dispatch.Serves`: what the turns put on record, by induction on the receivers.
* `nests_dispatch`: a dispatch leaves no mark at the depth of the code that has entered it, by
  induction on the number of dispatches that may run one inside the other.
-/

import ExtensionHost.Proofs.Bus.Courses
import ExtensionHost.Proofs.Bus.Serving

namespace ExtensionHost

variable {σ ε κ : Type}

/-! ### Entries about turns -/

namespace Activity

/-- The receiver whose turn an entry is about. -/
def receiver? : Activity ε κ → Option (Registration κ)
  | tested registration _ _ _ | handling registration _ => some registration
  | settled _ turn => some turn.registration
  | _ => none

/-- Whether an entry tells that a turn has ended. -/
def isSettled : Activity ε κ → Bool
  | settled _ _ => true
  | _ => false

end Activity

namespace Dispatch

open Run

variable [Event ε] {program : Program σ ε κ} {nested : ε → Run σ ε κ (ε × Outcome κ)}
  {eventType : EventType} {registration : Registration κ}
  {receivers first second : List (Registration κ)} {served : List (Turn κ)}
  {event left current : ε} {session now later : Session σ ε κ}

omit [Event ε] in
theorem filter_isSettled_marks (eventType : EventType) (registration : Registration κ) (event : ε)
    (answers : List (Check × Except Payload Bool)) (started : Bool)
    (result : Option (Turn κ × ε)) :
    (marks eventType registration event answers started result).filter Activity.isSettled =
      (result.toList.map Prod.fst).map (.settled eventType) := by
  have tested : (testing registration event answers).filter Activity.isSettled = [] := by
    refine List.filter_eq_nil_iff.mpr fun activity member => ?_
    obtain ⟨answer, -, rfl⟩ := List.mem_map.mp member
    exact Bool.false_ne_true
  unfold marks
  rw [List.filter_append, List.filter_append, tested]
  cases started <;> cases result <;> rfl

omit [Event ε] in
theorem receiver?_of_mem_marks {answers : List (Check × Except Payload Bool)} {started : Bool}
    {result : Option (Turn κ × ε)} (own : ∀ turn ∈ result, turn.1.registration = registration)
    {activity : Activity ε κ}
    (member : activity ∈ marks eventType registration event answers started result) :
    activity.receiver? = some registration := by
  unfold marks at member
  rcases List.mem_append.mp member with before | ended
  · rcases List.mem_append.mp before with tested | handled
    · obtain ⟨answer, -, rfl⟩ := List.mem_map.mp tested
      rfl
    · split at handled
      · rw [List.mem_singleton.mp handled]
        rfl
      · exact absurd handled List.not_mem_nil
  · obtain ⟨turn, among, rfl⟩ := List.mem_map.mp ended
    exact congrArg some (own turn (Option.mem_toList.mp among))

/-! ### One turn after the other -/

theorem registration_of_turn {turn : Turn κ}
    (ended : on (Dispatch.turn program nested eventType registration event) session =
      (some (turn, left), later)) : turn.registration = registration :=
  property_of_ended (fun result => result.1.registration = registration) ended
    (yields_turn program nested eventType registration event)

theorem registrations_of_turns
    (ended : on (turns program nested eventType receivers event) session =
      (some (served, left), later)) : served.map Turn.registration = receivers :=
  property_of_ended (fun result => result.1.map Turn.registration = receivers) ended
    (yields_turns program nested eventType receivers event)

/-- More turns come after these. -/
def following (served : List (Turn κ)) (outcome : Option (List (Turn κ) × ε) × Session σ ε κ) :
    Option (List (Turn κ) × ε) × Session σ ε κ :=
  (outcome.1.map fun result => (served ++ result.1, result.2), outcome.2)

theorem turns_append (first second : List (Registration κ)) (event : ε) :
    turns program nested eventType (first ++ second) event =
      turns program nested eventType first event >>= fun served =>
        turns program nested eventType second served.2 >>= fun others =>
          pure (served.1 ++ others.1, others.2) := by
  induction first generalizing event with
  | nil =>
    show _ = pure ([], event) >>= _
    rw [pure_bind]
    exact (bind_pure _).symm
  | cons registration rest ih =>
    simp only [List.cons_append, turns, ih, bind_assoc, pure_bind]

theorem on_turns_append_of_ended
    (ended : on (turns program nested eventType first event) session =
      (some (served, current), now)) (second : List (Registration κ)) :
    on (turns program nested eventType (first ++ second) event) session =
      following served (on (turns program nested eventType second current) now) := by
  rw [turns_append, on_bind, ended]
  dsimp only
  rw [on_bind]
  rcases on (turns program nested eventType second current) now with ⟨_ | result, last⟩ <;> rfl

theorem on_turns_append_of_endless
    (endless : on (turns program nested eventType first event) session = (none, later))
    (second : List (Registration κ)) :
    on (turns program nested eventType (first ++ second) event) session = (none, later) := by
  rw [turns_append, on_bind, endless]

theorem on_turns_cons_of_ended {turn : Turn κ}
    (ended : on (Dispatch.turn program nested eventType registration event) session =
      (some (turn, left), later)) (rest : List (Registration κ)) :
    on (turns program nested eventType (registration :: rest) event) session =
      following [turn] (on (turns program nested eventType rest left) later) := by
  rw [turns, on_bind, ended]
  dsimp only
  rw [on_bind]
  rcases on (turns program nested eventType rest left) later with ⟨_ | result, last⟩ <;> rfl

theorem on_turns_cons_of_endless
    (endless : on (turn program nested eventType registration event) session = (none, later))
    (rest : List (Registration κ)) :
    on (turns program nested eventType (registration :: rest) event) session = (none, later) := by
  rw [turns, on_bind, endless]

/-- Turns that do not end have come to one that does not. -/
theorem exists_turn_of_endless
    (endless : on (turns program nested eventType receivers event) session = (none, later)) :
    ∃ served registration rest current now,
      receivers = served.map Turn.registration ++ registration :: rest ∧
      on (turns program nested eventType (served.map Turn.registration) event) session =
        (some (served, current), now) ∧
      on (turn program nested eventType registration current) now = (none, later) := by
  induction receivers generalizing event session with
  | nil => cases endless
  | cons registration rest ih =>
    rcases began : on (turn program nested eventType registration event) session with
      ⟨_ | ⟨turn, left⟩, middle⟩
    · rw [on_turns_cons_of_endless began] at endless
      cases endless
      exact ⟨[], registration, rest, event, session, rfl, rfl, began⟩
    · rw [on_turns_cons_of_ended began] at endless
      rcases others : on (turns program nested eventType rest left) middle with
        ⟨_ | ⟨more, final⟩, last⟩
      · rw [others] at endless
        cases endless
        obtain ⟨served, next, after, current, now, rfl, before, stuck⟩ := ih others
        have own := registration_of_turn began
        refine ⟨turn :: served, next, after, current, now, ?_, ?_, stuck⟩
        · rw [List.map_cons, own, List.cons_append]
        · rw [List.map_cons, own, on_turns_cons_of_ended began, before]
          rfl
      · rw [others] at endless
        cases endless

/-- Turns that end have come to each of them. -/
theorem exists_turn_of_ended {before after : List (Turn κ)} {turn : Turn κ}
    (ended : on (turns program nested eventType receivers event) session =
      (some (before ++ turn :: after, left), later)) :
    ∃ current now next middle,
      on (turns program nested eventType (before.map Turn.registration) event) session =
        (some (before, current), now) ∧
      on (Dispatch.turn program nested eventType turn.registration current) now =
        (some (turn, next), middle) := by
  have listed := registrations_of_turns ended
  rw [List.map_append, List.map_cons] at listed
  subst listed
  rcases earlier : on (turns program nested eventType (before.map Turn.registration) event)
    session with ⟨_ | ⟨served, current⟩, now⟩
  · rw [on_turns_append_of_endless earlier] at ended
    cases ended
  · have length := congrArg List.length (registrations_of_turns earlier)
    rw [on_turns_append_of_ended earlier] at ended
    rcases here : on (Dispatch.turn program nested eventType turn.registration current) now with
      ⟨_ | ⟨own, next⟩, middle⟩
    · rw [on_turns_cons_of_endless here] at ended
      cases ended
    · rw [on_turns_cons_of_ended here] at ended
      rcases rest : on (turns program nested eventType (after.map Turn.registration) next) middle
        with ⟨_ | ⟨others, final⟩, last⟩
      · rw [rest] at ended
        cases ended
      · rw [rest] at ended
        have same : served ++ own :: others = before ++ turn :: after :=
          congrArg Prod.fst (Option.some.inj (congrArg Prod.fst ended))
        rw [List.length_map, List.length_map] at length
        obtain ⟨rfl, tail⟩ := List.append_inj same length
        obtain ⟨rfl, -⟩ := List.cons.inj tail
        exact ⟨current, now, next, middle, rfl, here⟩

/-! ### What the turns put on record -/

/-- The own entries of a dispatch to these receivers. Turns have ended in the order of the
receivers, and nobody else has had one. -/
structure Serves (eventType : EventType) (receivers : List (Registration κ))
    (own : List (Activity ε κ)) (served : List (Turn κ)) : Prop where
  settled : own.filter Activity.isSettled = served.map (.settled eventType)
  inOrder : served.map Turn.registration <+: receivers
  about : ∀ activity ∈ own, ∀ registration ∈ activity.receiver?, registration ∈ receivers

omit [Event ε] in
theorem Serves.nil (eventType : EventType) (receivers : List (Registration κ)) :
    Serves eventType receivers ([] : List (Activity ε κ)) [] :=
  ⟨rfl, List.nil_prefix, fun _ none => absurd none List.not_mem_nil⟩

omit [Event ε] in
/-- That a dispatch has begun is about nobody's turn. -/
theorem Serves.begin {own : List (Activity ε κ)} (serves : Serves eventType receivers own served) :
    Serves eventType receivers (.began eventType receivers :: own) served where
  settled := serves.settled
  inOrder := serves.inOrder
  about := List.forall_mem_cons.mpr
    ⟨fun _ none => absurd none (Option.not_mem_none _), serves.about⟩

omit [Event ε] in
/-- The entries of the first turn, and of those after it. -/
theorem Serves.cons {rest : List (Registration κ)} {turn : Turn κ}
    {own others : List (Activity ε κ)}
    (ended : own.filter Activity.isSettled = [.settled eventType turn])
    (about : ∀ activity ∈ own, activity.receiver? = some turn.registration)
    (serves : Serves eventType rest others served) :
    Serves eventType (turn.registration :: rest) (own ++ others) (turn :: served) where
  settled := by
    rw [List.filter_append, ended, serves.settled]
    rfl
  inOrder := List.cons_prefix_cons.mpr ⟨rfl, serves.inOrder⟩
  about activity member receiver found := by
    rcases List.mem_append.mp member with first | later
    · rw [about activity first] at found
      cases found
      exact List.mem_cons_self
    · exact List.mem_cons_of_mem _ (serves.about activity later receiver found)

section

variable {mayHalt : Bool} {room : Nat}

omit [Event ε] in
theorem leads_following {own : List (Activity ε κ)} (served : List (Turn κ))
    {outcome : Option (List (Turn κ) × ε) × Session σ ε κ}
    (leads : session.Leads mayHalt room outcome own) :
    session.Leads mayHalt room (following served outcome) own := by
  rcases outcome with ⟨_ | result, last⟩
  · exact leads.endless
  · exact Session.leads_of_ended leads.notes (leads.returns rfl)

variable (inner : ∀ event, Nests mayHalt room (nested event))
  (halts : program.HaltsOnlyIf mayHalt)

include inner halts

theorem leads_turns (eventType : EventType) (receivers : List (Registration κ)) (event : ε)
    (session : Session σ ε κ) :
    ∃ own served,
      session.Leads mayHalt room (on (turns program nested eventType receivers event) session)
        own ∧
      Serves eventType receivers own served ∧
      ∀ result ∈ (on (turns program nested eventType receivers event) session).1,
        result.1 = served := by
  induction receivers generalizing event session with
  | nil =>
    refine ⟨[], [], Session.leads_of_ended (.of_journal_eq rfl) rfl, .nil _ _,
      fun result found => ?_⟩
    cases found
    rfl
  | cons registration rest ih =>
    -- the first turn puts its marks on record, and only if it ends do the others follow
    obtain ⟨answers, started, leads, -⟩ :=
      leads_turn inner halts eventType registration event session
    have settled := filter_isSettled_marks eventType registration event answers started
    rcases began : on (turn program nested eventType registration event) session with
      ⟨_ | ⟨turn, left⟩, middle⟩
    · rw [began] at leads
      rw [on_turns_cons_of_endless began]
      refine ⟨_, [], leads.endless, ⟨settled none, List.nil_prefix, ?_⟩,
        fun _ none => absurd none (Option.not_mem_none _)⟩
      intro activity member receiver found
      rw [receiver?_of_mem_marks (fun _ none => absurd none (Option.not_mem_none _)) member]
        at found
      cases found
      exact List.mem_cons_self
    · rw [began] at leads
      rw [on_turns_cons_of_ended began]
      obtain rfl := registration_of_turn began
      obtain ⟨others, served, follow, serves, same⟩ := ih left middle
      have both := leads.trans follow
      refine ⟨_, turn :: served, ?_,
        serves.cons (settled (some (turn, left))) fun activity => receiver?_of_mem_marks ?_, ?_⟩
      · exact leads_following [turn] both
      · exact fun result found => congrArg _ (congrArg Prod.fst (Option.some.inj found)).symm
      · intro result found
        obtain ⟨final, ended, rfl⟩ := Option.mem_map.mp found
        exact congrArg (turn :: ·) (same final ended)

end

/-! ### The whole dispatch -/

section

omit [Event ε]

theorem extends_collected (session : Session σ ε κ) (eventType : EventType) :
    ∃ activities, session.Extends (session.collected eventType) activities :=
  Session.Operation.extends (.collect session eventType)

theorem running_begun (session : Session σ ε κ) (eventType : EventType) :
    (begun session eventType).bus.running = session.bus.running + 1 := by
  obtain ⟨activities, extending⟩ := extends_collected session eventType
  exact congrArg (· + 1) extending.running

/-- What has been put on record when a dispatch begins: changes, and that it has begun. -/
theorem journal_begun (session : Session σ ε κ) (eventType : EventType) :
    ∃ changes : List (Entry ε κ), (∀ depth, Session.ownAt depth changes = []) ∧
      (∀ entry ∈ changes, session.bus.running ≤ entry.depth) ∧
      (begun session eventType).journal = session.journal ++ changes ++
        [⟨session.bus.running + 1, .began eventType (session.bus.receivers eventType).list⟩] := by
  obtain ⟨activities, extending⟩ := extends_collected session eventType
  refine ⟨session.entries activities, extending.ownAt_eq_nil, fun entry member => ?_, ?_⟩
  · obtain ⟨activity, -, rfl⟩ := List.mem_map.mp member
    exact Nat.le_refl _
  · rw [← extending.journal, ← extending.running]
    rfl

/-- What the turns put on record is one deeper than the code that has entered the dispatch. -/
theorem notes_of_begun {own : List (Activity ε κ)}
    (notes : (begun session eventType).Notes later own) :
    session.Notes later [] ∧ session.notedAt (session.bus.running + 1) later =
      .began eventType (session.bus.receivers eventType).list :: own := by
  obtain ⟨changes, none_own, above, grown⟩ := journal_begun session eventType
  obtain ⟨added, known, deeper, rfl⟩ := notes
  rw [running_begun] at deeper ⊢
  rw [grown, List.append_assoc, List.append_assoc] at known
  have last : ∀ entry ∈ ⟨session.bus.running + 1,
      .began eventType (session.bus.receivers eventType).list⟩ :: added,
      session.bus.running < entry.depth :=
    List.forall_mem_cons.mpr ⟨Nat.lt_succ_self _, deeper⟩
  refine ⟨⟨_, known, fun entry member => ?_, ?_⟩, ?_⟩
  · rcases List.mem_append.mp member with change | new
    · exact above entry change
    · exact Nat.le_of_lt (last entry new)
  · rw [Session.ownAt_append, none_own]
    exact Session.ownAt_of_deeper last
  · unfold Session.notedAt
    rw [known, List.drop_left, Session.ownAt_append, Session.ownAt_append, none_own]
    simp [Session.ownAt, Activity.isChange]

theorem journal_concluded (eventType : EventType)
    (outcome : Option (List (Turn κ) × ε) × Session σ ε κ) :
    (concluded eventType outcome).2.journal = outcome.2.journal := by
  rcases outcome with ⟨_ | result, later⟩ <;> rfl

end

/-- A dispatch without receivers comes to an end at once. -/
theorem on_dispatch_of_empty {depth : Nat}
    (empty : (session.bus.receivers (Event.eventType event)).list = []) :
    on (dispatch program (depth + 1) event) session =
      (some (event, { eventType := Event.eventType event }),
        session.collected (Event.eventType event)) := by
  unfold dispatch dispatchWith
  rw [on_bind, on_receivers]
  dsimp only
  rw [if_pos (List.isEmpty_iff.mpr empty)]
  rfl

/-- **All that happens in a dispatch is on record deeper than where it was entered.** Afterwards as
many dispatches are running as before; and one that does not end stands in the innermost of all that
may run, unless code may halt. -/
theorem nests_dispatch {mayHalt : Bool} (halts : program.HaltsOnlyIf mayHalt) (depth : Nat)
    (event : ε) : Nests mayHalt depth (dispatch program depth event) := by
  induction depth generalizing event with
  | zero => exact nests_diverge (.inr rfl)
  | succ depth ih =>
    intro session
    by_cases empty : (session.bus.receivers (Event.eventType event)).list = []
    · obtain ⟨activities, extending⟩ := extends_collected session (Event.eventType event)
      rw [on_dispatch_of_empty empty]
      exact Session.leads_of_ended extending.notes extending.running
    · obtain ⟨own, served, leads, -⟩ := leads_turns ih halts (Event.eventType event)
        (session.bus.receivers (Event.eventType event)).list event
        (begun session (Event.eventType event))
      rw [on_dispatch_of_occupied empty]
      generalize on (turns _ _ _ _ event) (begun session (Event.eventType event)) = outcome at leads
      -- the turns know nothing of the depth out here: all their entries are deeper
      have notes := (notes_of_begun leads.notes).1.congr
        (journal_concluded (Event.eventType event) outcome)
      have deeper := running_begun session (Event.eventType event)
      rcases outcome with ⟨_ | result, later⟩
      · refine ⟨notes, fun ended => (nomatch ended), fun goesOn _ => ?_⟩
        have stopped : later.bus.running = _ := leads.stops goesOn rfl
        show later.bus.running = _
        omega
      · refine Session.leads_of_ended notes ?_
        have returned : later.bus.running = _ := leads.returns rfl
        show later.bus.running - 1 = _
        omega

variable (program) in
/-- The same of turns whatever their code does, without regard to how they stop. -/
theorem leads_turns_of_dispatch (depth : Nat) (eventType : EventType)
    (receivers : List (Registration κ)) (event : ε) (session : Session σ ε κ) :
    ∃ own served,
      session.Leads true depth
        (on (turns program (dispatch program depth) eventType receivers event) session) own ∧
      Serves eventType receivers own served ∧
      ∀ result ∈ (on (turns program (dispatch program depth) eventType receivers event) session).1,
        result.1 = served :=
  leads_turns (nests_dispatch program.haltsOnlyIf_true depth) program.haltsOnlyIf_true eventType
    receivers event session

variable (program) in
/-- **What a dispatch puts on record at its own depth** is about its receivers as they were known
when it began, and its outcome is made of the turns that are on record. -/
theorem serves_dispatch (depth : Nat) (event : ε) (session : Session σ ε κ) :
    let run := on (dispatch program (depth + 1) event) session
    session.journal <+: run.2.journal ∧ ∃ served,
      Serves (Event.eventType event) (session.bus.receivers (Event.eventType event)).list
        (session.notedAt (session.bus.running + 1) run.2) served ∧
      ∀ result ∈ run.1, result.2 = { eventType := Event.eventType event, turns := served } := by
  dsimp only
  by_cases empty : (session.bus.receivers (Event.eventType event)).list = []
  · obtain ⟨activities, extending⟩ := extends_collected session (Event.eventType event)
    have grown : (session.collected (Event.eventType event)).journal = _ := extending.journal
    rw [on_dispatch_of_empty empty]
    refine ⟨extending.notes.journal_grows, [], ?_, fun result ended => ?_⟩
    · unfold Session.notedAt
      rw [grown, List.drop_left, extending.ownAt_eq_nil]
      exact .nil _ _
    · cases ended
      rfl
  · obtain ⟨own, served, leads, serves, same⟩ := leads_turns_of_dispatch program depth
      (Event.eventType event) (session.bus.receivers (Event.eventType event)).list event
      (begun session (Event.eventType event))
    rw [on_dispatch_of_occupied empty]
    generalize on (turns _ _ _ _ event) (begun session (Event.eventType event)) = outcome
      at leads same
    obtain ⟨notes, noted⟩ := notes_of_begun leads.notes
    refine ⟨?_, served, ?_, fun result ended => ?_⟩
    · rw [journal_concluded]
      exact notes.journal_grows
    · unfold Session.notedAt at noted ⊢
      rw [journal_concluded, noted]
      exact serves.begin
    · rcases outcome with ⟨_ | ⟨turns, left⟩, later⟩
      · cases ended
      · cases ended
        rw [← same _ rfl]

/-! ### Coming to a turn -/

/-- A dispatch has come to the turn of one of its receivers, and the turns before have left the
event and the session like this. -/
structure Comes (program : Program σ ε κ) (depth : Nat) (event : ε) (session : Session σ ε κ)
    (served : List (Turn κ)) (registration : Registration κ) (current : ε)
    (now : Session σ ε κ) : Prop where
  listed : ∃ rest, (session.bus.receivers (Event.eventType event)).list =
    served.map Turn.registration ++ registration :: rest
  ended : on (turns program (dispatch program depth) (Event.eventType event)
      (served.map Turn.registration) event) (begun session (Event.eventType event)) =
    (some (served, current), now)

variable {depth : Nat}

theorem Comes.occupied
    (comes : Comes program depth event session served registration current now) :
    (session.bus.receivers (Event.eventType event)).list ≠ [] := by
  obtain ⟨rest, split⟩ := comes.listed
  rw [split]
  exact List.append_ne_nil_of_right_ne_nil _ (List.cons_ne_nil _ _)

/-- At its own turns, a dispatch is one deeper than where it was entered. -/
theorem Comes.running
    (comes : Comes program depth event session served registration current now) :
    now.bus.running = session.bus.running + 1 := by
  obtain ⟨own, -, leads, -⟩ := leads_turns_of_dispatch program depth (Event.eventType event)
    (served.map Turn.registration) event (begun session (Event.eventType event))
  rw [comes.ended] at leads
  exact (leads.returns rfl).trans (running_begun session _)

/-- What is on record after the turn stays on record. -/
theorem Comes.journal_grows
    (comes : Comes program depth event session served registration current now) :
    (on (turn program (dispatch program depth) (Event.eventType event) registration current)
      now).2.journal <+: (on (dispatch program (depth + 1) event) session).2.journal := by
  obtain ⟨rest, split⟩ := comes.listed
  rw [on_dispatch_of_occupied comes.occupied, journal_concluded, split,
    on_turns_append_of_ended comes.ended]
  rcases began : on (turn program (dispatch program depth) (Event.eventType event) registration
    current) now with ⟨_ | ⟨turn, left⟩, middle⟩
  · rw [on_turns_cons_of_endless began]
    exact List.prefix_rfl
  · rw [on_turns_cons_of_ended began]
    obtain ⟨own, -, leads, -⟩ := leads_turns_of_dispatch program depth (Event.eventType event) rest
      left middle
    exact leads.notes.journal_grows

/-- A turn that ends is a part of the outcome. -/
theorem Comes.has_turn
    (comes : Comes program depth event session served registration current now) {turn : Turn κ}
    {next final : ε} {middle : Session σ ε κ} {outcome : Outcome κ}
    (ended : on (Dispatch.turn program (dispatch program depth) (Event.eventType event) registration
      current) now = (some (turn, next), middle))
    (returned : on (dispatch program (depth + 1) event) session = (some (final, outcome), later)) :
    served ++ [turn] <+: outcome.turns := by
  obtain ⟨rest, split⟩ := comes.listed
  rw [on_dispatch_of_occupied comes.occupied, split, on_turns_append_of_ended comes.ended,
    on_turns_cons_of_ended ended] at returned
  rcases others : on (turns program (dispatch program depth) (Event.eventType event) rest next)
    middle with ⟨_ | ⟨more, left⟩, last⟩
  · rw [others] at returned
    cases returned
  · rw [others] at returned
    cases returned
    exact ⟨more, List.append_assoc _ _ _⟩

/-- A dispatch that does not end has come to a turn that does not. -/
theorem exists_comes_of_endless
    (endless : on (dispatch program (depth + 1) event) session = (none, later)) :
    ∃ served registration current now,
      Comes program depth event session served registration current now ∧
      on (turn program (dispatch program depth) (Event.eventType event) registration current) now =
        (none, later) := by
  by_cases empty : (session.bus.receivers (Event.eventType event)).list = []
  · rw [on_dispatch_of_empty empty] at endless
    cases endless
  · rw [on_dispatch_of_occupied empty] at endless
    rcases turned : on (turns program (dispatch program depth) (Event.eventType event) _ event)
      (begun session (Event.eventType event)) with ⟨_ | result, last⟩
    · rw [turned] at endless
      cases endless
      obtain ⟨served, registration, rest, current, now, split, before, stuck⟩ :=
        exists_turn_of_endless turned
      exact ⟨served, registration, current, now, ⟨⟨rest, split⟩, before⟩, stuck⟩
    · rw [turned] at endless
      cases endless

/-- The outcome of a dispatch is made of the turns that it has come to. -/
theorem comes_of_ended {before after : List (Turn κ)} {turn : Turn κ} {outcome : Outcome κ}
    (returned : on (dispatch program (depth + 1) event) session = (some (left, outcome), later))
    (split : outcome.turns = before ++ turn :: after) :
    ∃ current now next middle,
      Comes program depth event session before turn.registration current now ∧
      on (Dispatch.turn program (dispatch program depth) (Event.eventType event)
        turn.registration current) now = (some (turn, next), middle) := by
  have listed := turns_of_dispatch program returned
  rw [split, List.map_append, List.map_cons] at listed
  have occupied : (session.bus.receivers (Event.eventType event)).list ≠ [] := by
    rw [← listed]
    exact List.append_ne_nil_of_right_ne_nil _ (List.cons_ne_nil _ _)
  rw [on_dispatch_of_occupied occupied] at returned
  rcases turned : on (turns program (dispatch program depth) (Event.eventType event) _ event)
    (begun session (Event.eventType event)) with ⟨_ | ⟨turns, final⟩, last⟩
  · rw [turned] at returned
    cases returned
  · rw [turned] at returned
    cases returned
    rw [show turns = _ from split] at turned
    obtain ⟨current, now, next, middle, earlier, here⟩ := exists_turn_of_ended turned
    exact ⟨current, now, next, middle, ⟨⟨_, listed.symm⟩, earlier⟩, here⟩

end Dispatch

end ExtensionHost
