/-
**The course of one receiver's turn.**

The receiver is passed over, or its predicates are asked one after the other, each in the session
that the one before has left. If the event passes them all the handler is started; if not, the turn
ends with the first that it does not pass.

* `Subscriber.predicates`: the filters in order, then the predicate that ends the registration.
* `Dispatch.IsOffered`: the receiver is not passed over.
* `Dispatch.Admits`, `Dispatch.Stops`: the event passes all predicates, or it gets as far as one of
  them, which answers otherwise, panics, or does not come back.
* `on_turn_of_declined`, `on_turn_of_refused`, `on_turn_of_handled`: what the turn comes to.
* `leads_turn`: what it puts on record, and when the handler is started.
-/

import ExtensionHost.Proofs.Bus.Nesting

namespace ExtensionHost

variable {σ ε κ α : Type}

/-! ### The predicates of a subscriber -/

/-- The answer with which an event passes. -/
def Check.pass : Check → Bool
  | filter _ => true
  | expiry => false

/-- Filters with their places, from this one on. -/
def Check.filters (index : Nat) (filters : List κ) : List (Check × κ) :=
  (filters.zipIdx index).map fun numbered => (filter numbered.2, numbered.1)

/-- The predicates in the order in which they are asked. -/
def Subscriber.predicates (subscriber : Subscriber κ) : List (Check × κ) :=
  Check.filters 0 subscriber.filters ++
    subscriber.expireWhen.toList.map fun test => (.expiry, test)

/-- Of these predicates some were asked, and this is what they answered. They are asked in order,
and no more of them as soon as the event does not pass. -/
structure Check.Answered (predicates : List (Check × κ))
    (answers : List (Check × Except Payload Bool)) : Prop where
  inOrder : answers.map Prod.fst <+: predicates.map Prod.fst
  passed : ∀ earlier ∈ answers.dropLast, earlier.2 = .ok earlier.1.pass

namespace Check.Answered

variable {check : Check} {test : κ} {rest predicates : List (Check × κ)}
  {answers : List (Check × Except Payload Bool)}

theorem nil (predicates : List (Check × κ)) : Answered predicates [] :=
  ⟨List.nil_prefix, fun _ none => absurd none List.not_mem_nil⟩

theorem single (answer : Except Payload Bool) :
    Answered ((check, test) :: rest) [(check, answer)] :=
  ⟨List.prefix_append [check] _, fun _ none => absurd none List.not_mem_nil⟩

theorem cons (answered : Answered rest answers) :
    Answered ((check, test) :: rest) ((check, .ok check.pass) :: answers) where
  inOrder := List.cons_prefix_cons.mpr ⟨rfl, answered.inOrder⟩
  passed earlier member := by
    cases answers with
    | nil => exact absurd member List.not_mem_nil
    | cons next others =>
      rcases List.mem_cons.mp member with rfl | among
      · rfl
      · exact answered.passed earlier among

end Check.Answered

namespace Dispatch

open Run

/-- The receiver is not passed over: it is live, and accepts the event if that is cancelled. -/
def IsOffered [Event ε] (session : Session σ ε κ) (registration : Registration κ) (event : ε) :
    Prop :=
  (session.bus.standing registration.id).live = true ∧
    (Event.isCancelled event = true → registration.subscriber.acceptsCancelled = true)

section

variable (program : Program σ ε κ) (nested : ε → Run σ ε κ (ε × Outcome κ))
  (registration : Registration κ) (event : ε)

/-- The event passes these predicates, and they leave this session. -/
inductive Admits : List (Check × κ) → Session σ ε κ → Session σ ε κ → Prop
  | nil (session : Session σ ε κ) : Admits [] session session
  | cons {check : Check} {test : κ} {rest : List (Check × κ)}
      {session middle passed : Session σ ε κ}
      (asked : on (ask program nested registration check test event) session =
        (some (.ok check.pass), middle))
      (others : Admits rest middle passed) : Admits ((check, test) :: rest) session passed

/-- The event passes those of the predicates that stand before this check. The answer to this one is
another, or a panic, or there is none, and it leaves this session. -/
inductive Stops : List (Check × κ) → Session σ ε κ → Check → Option (Except Payload Bool) →
    Session σ ε κ → Prop
  | here {check : Check} {test : κ} {rest : List (Check × κ)} {session later : Session σ ε κ}
      {answer : Option (Except Payload Bool)}
      (asked : on (ask program nested registration check test event) session = (answer, later))
      (refuses : answer ≠ some (.ok check.pass)) :
      Stops ((check, test) :: rest) session check answer later
  | further {first check : Check} {test : κ} {rest : List (Check × κ)}
      {session middle later : Session σ ε κ} {answer : Option (Except Payload Bool)}
      (asked : on (ask program nested registration first test event) session =
        (some (.ok first.pass), middle))
      (others : Stops rest middle check answer later) :
      Stops ((first, test) :: rest) session check answer later

end

variable {program : Program σ ε κ} {nested : ε → Run σ ε κ (ε × Outcome κ)}
  {registration : Registration κ} {event : ε} {session passed later : Session σ ε κ}
  {predicates first second : List (Check × κ)} {check : Check}
  {answer : Option (Except Payload Bool)}

/-! ### Asking predicates -/

theorem admits_or_stops (program : Program σ ε κ) (nested : ε → Run σ ε κ (ε × Outcome κ))
    (registration : Registration κ) (event : ε) (predicates : List (Check × κ))
    (session : Session σ ε κ) :
    (∃ passed, Admits program nested registration event predicates session passed) ∨
      ∃ check answer later,
        Stops program nested registration event predicates session check answer later := by
  induction predicates generalizing session with
  | nil => exact .inl ⟨session, .nil session⟩
  | cons predicate rest ih =>
    obtain ⟨check, test⟩ := predicate
    rcases asked : on (ask program nested registration check test event) session with
      ⟨answer, middle⟩
    by_cases passes : answer = some (.ok check.pass)
    · subst passes
      rcases ih middle with ⟨passed, others⟩ | ⟨last, answer, later, others⟩
      · exact .inl ⟨passed, .cons asked others⟩
      · exact .inr ⟨last, answer, later, .further asked others⟩
    · exact .inr ⟨check, answer, middle, .here asked passes⟩

theorem Stops.not_admits
    (stops : Stops program nested registration event predicates session check answer later) :
    ¬ Admits program nested registration event predicates session passed := by
  induction stops with
  | here asked refuses =>
    rintro (_ | ⟨admitted, -⟩)
    exact refuses (congrArg Prod.fst (asked.symm.trans admitted))
  | further asked others ih =>
    rintro (_ | ⟨admitted, further⟩)
    obtain rfl := congrArg Prod.snd (asked.symm.trans admitted)
    exact ih further

theorem Stops.refuses
    (stops : Stops program nested registration event predicates session check answer later) :
    answer ≠ some (.ok check.pass) := by
  induction stops with
  | here asked refuses => exact refuses
  | further asked others ih => exact ih

theorem admits_append_iff :
    Admits program nested registration event (first ++ second) session passed ↔
      ∃ middle, Admits program nested registration event first session middle ∧
        Admits program nested registration event second middle passed := by
  induction first generalizing session with
  | nil =>
    refine ⟨fun admits => ⟨session, .nil session, admits⟩, ?_⟩
    rintro ⟨_, ⟨⟩, admits⟩
    exact admits
  | cons predicate rest ih =>
    constructor
    · rintro (_ | ⟨asked, others⟩)
      obtain ⟨middle, before, after⟩ := ih.mp others
      exact ⟨middle, .cons asked before, after⟩
    · rintro ⟨middle, _ | ⟨asked, before⟩, after⟩
      exact .cons asked (ih.mpr ⟨middle, before, after⟩)

theorem stops_append_iff :
    Stops program nested registration event (first ++ second) session check answer later ↔
      Stops program nested registration event first session check answer later ∨
        ∃ middle, Admits program nested registration event first session middle ∧
          Stops program nested registration event second middle check answer later := by
  induction first generalizing session with
  | nil =>
    refine ⟨fun stops => .inr ⟨session, .nil session, stops⟩, ?_⟩
    rintro (stops | ⟨_, ⟨⟩, stops⟩)
    · cases stops
    · exact stops
  | cons predicate rest ih =>
    constructor
    · rintro (⟨asked, refuses⟩ | ⟨asked, others⟩)
      · exact .inl (.here asked refuses)
      · rcases ih.mp others with before | ⟨middle, before, after⟩
        · exact .inl (.further asked before)
        · exact .inr ⟨middle, .cons asked before, after⟩
    · rintro ((⟨asked, refuses⟩ | ⟨asked, others⟩) | ⟨middle, _ | ⟨asked, before⟩, after⟩)
      · exact .here asked refuses
      · exact .further asked (ih.mpr (.inl others))
      · exact .further asked (ih.mpr (.inr ⟨middle, before, after⟩))

/-! #### Filters and expiry -/

theorem on_askFilters_of_admits {index : Nat} {filters : List κ}
    (admits : Admits program nested registration event (Check.filters index filters) session
      passed) :
    on (askFilters program nested registration event index filters) session =
      (some (.ok true), passed) := by
  induction filters generalizing index session with
  | nil =>
    cases admits
    rfl
  | cons filter rest ih =>
    rcases admits with _ | ⟨asked, others⟩
    unfold askFilters
    rw [on_bind, asked]
    exact ih others

theorem on_askFilters_of_stops {index : Nat} {filters : List κ}
    (stops : Stops program nested registration event (Check.filters index filters) session check
      answer later) :
    on (askFilters program nested registration event index filters) session = (answer, later) ∧
      ∃ place, check = .filter place := by
  induction filters generalizing index session with
  | nil => cases stops
  | cons filter rest ih =>
    unfold askFilters
    rcases stops with ⟨asked, refuses⟩ | ⟨asked, others⟩
    · refine ⟨?_, index, rfl⟩
      rw [on_bind, asked]
      rcases answer with _ | payload | _ | _
      · rfl
      · rfl
      · rfl
      · exact absurd rfl refuses
    · rw [on_bind, asked]
      exact ih others

/-- The predicate that ends a registration, if there is one. -/
abbrev expiryOf (registration : Registration κ) : List (Check × κ) :=
  registration.subscriber.expireWhen.toList.map fun test => (.expiry, test)

theorem on_askExpiry_of_admits
    (admits : Admits program nested registration event (expiryOf registration) session passed) :
    on (askExpiry program nested registration event) session = (some (.ok .admitted), passed) := by
  unfold askExpiry
  unfold expiryOf at admits
  cases found : registration.subscriber.expireWhen with
  | none =>
    rw [found] at admits
    cases admits
    rfl
  | some test =>
    rw [found] at admits
    rcases admits with _ | ⟨asked, ⟨⟩⟩
    dsimp only
    rw [on_bind, asked]
    rfl

/-- What the answer of a predicate that the event does not pass means for the turn. -/
def refusal : Check → Except Payload Bool → Except Payload Admission
  | _, .error payload => .error payload
  | .filter _, .ok _ => .ok .filtered
  | .expiry, .ok _ => .ok .expired

/-- The session after that answer: when a registration expires, it is revoked. -/
def dismissed (registration : Registration κ) :
    Check → Except Payload Bool → Session σ ε κ → Session σ ε κ
  | .expiry, .ok _, session => (on (revoke registration.subscription) session).2
  | _, _, session => session

/-- What comes of asking, when the event gets no further than this check. -/
def dismissal (registration : Registration κ) (check : Check) :
    Option (Except Payload Bool) → Session σ ε κ →
      Option (Except Payload Admission) × Session σ ε κ
  | none, later => (none, later)
  | some answer, later => (some (refusal check answer), dismissed registration check answer later)

-- revoking is the only thing that the dispatch does itself between two answers
theorem on_askExpiry_of_stops
    (stops : Stops program nested registration event (expiryOf registration) session check answer
      later) :
    on (askExpiry program nested registration event) session =
      dismissal registration check answer later := by
  unfold askExpiry
  unfold expiryOf at stops
  cases found : registration.subscriber.expireWhen with
  | none =>
    rw [found] at stops
    cases stops
  | some test =>
    rw [found] at stops
    rcases stops with ⟨asked, refuses⟩ | ⟨-, others⟩
    · dsimp only
      rw [on_bind, asked]
      rcases answer with _ | payload | _ | _
      · rfl
      · rfl
      · exact absurd rfl refuses
      · dsimp only [dismissal, dismissed, refusal]
        rw [on_bind, on_revoke]
        cases later.bus.revoke? registration.subscription <;> rfl
    · cases others

/-! #### All predicates -/

theorem on_admission_of_admits
    (admits : Admits program nested registration event registration.subscriber.predicates session
      passed) :
    on (admission program nested registration event) session = (some (.ok .admitted), passed) := by
  obtain ⟨middle, filters, expiry⟩ := admits_append_iff.mp admits
  unfold admission
  rw [on_bind, on_askFilters_of_admits filters]
  exact on_askExpiry_of_admits expiry

theorem on_admission_of_stops
    (stops : Stops program nested registration event registration.subscriber.predicates session
      check answer later) :
    on (admission program nested registration event) session =
      dismissal registration check answer later := by
  unfold admission
  rcases stops_append_iff.mp stops with filters | ⟨middle, filters, expiry⟩
  · obtain ⟨stopped, place, rfl⟩ := on_askFilters_of_stops filters
    rw [on_bind, stopped]
    rcases answer with _ | payload | _ | _
    · rfl
    · rfl
    · rfl
    · exact absurd rfl filters.refuses
  · rw [on_bind, on_askFilters_of_admits filters]
    exact on_askExpiry_of_stops expiry

/-! ### The turn -/

theorem countInvocation_ends (registration : Registration κ) (session : Session σ ε κ) :
    on (countInvocation registration) session =
      (some (), (on (countInvocation registration) session).2) := by
  rw [on_countInvocation]
  split <;> rfl

variable [Event ε]

theorem isOffered_iff : IsOffered session registration event ↔
    (session.bus.standing registration.id).live = true ∧
      (Event.isCancelled event && !registration.subscriber.acceptsCancelled) = false := by
  refine and_congr_right fun _ => ?_
  cases Event.isCancelled event <;> cases registration.subscriber.acceptsCancelled <;> simp

theorem on_offer_of_declined (declined : ¬ IsOffered session registration event) :
    on (offer program nested registration event) session =
      (some (if (session.bus.standing registration.id).live then .cancelled else .gone, event),
        session) := by
  rw [isOffered_iff, not_and, Bool.not_eq_false] at declined
  unfold offer
  rw [on_bind, on_bus]
  dsimp only
  cases live : (session.bus.standing registration.id).live with
  | false => rfl
  | true =>
    rw [Bool.not_true, if_neg Bool.false_ne_true, if_pos (declined live)]
    rfl

theorem on_offer_of_offered (offered : IsOffered session registration event) :
    on (offer program nested registration event) session =
      on (deliver program nested registration event) session := by
  obtain ⟨live, proceeds⟩ := isOffered_iff.mp offered
  unfold offer
  rw [on_bind, on_bus]
  dsimp only
  rw [live, proceeds, Bool.not_true, if_neg Bool.false_ne_true, if_neg Bool.false_ne_true]

/-- The turn is over with this verdict, and on record. -/
def settled (eventType : EventType) (registration : Registration κ) (verdict : Verdict)
    (left : ε) (session : Session σ ε κ) : Option (Turn κ × ε) × Session σ ε κ :=
  (some (⟨registration, verdict⟩, left),
    session.record [.settled eventType ⟨registration, verdict⟩])

theorem on_turn_of_offer {eventType : EventType} {verdict : Verdict} {left : ε}
    (offered : on (offer program nested registration event) session =
      (some (verdict, left), later)) :
    on (turn program nested eventType registration event) session =
      settled eventType registration verdict left later := by
  unfold turn
  rw [on_bind, offered]
  rfl

/-- Who is passed over has no predicate asked. -/
theorem on_turn_of_declined (eventType : EventType)
    (declined : ¬ IsOffered session registration event) :
    on (turn program nested eventType registration event) session =
      settled eventType registration
        (if (session.bus.standing registration.id).live then .cancelled else .gone) event
        session :=
  on_turn_of_offer (on_offer_of_declined declined)

/-- The verdict on a receiver whose predicate the event does not pass. -/
def verdictOn : Check → Except Payload Bool → Verdict
  | _, .error payload => .failed (.panicked payload)
  | .filter _, .ok _ => .filtered
  | .expiry, .ok _ => .expired

theorem on_turn_of_unanswered (eventType : EventType)
    (offered : IsOffered session registration event)
    (stops : Stops program nested registration event registration.subscriber.predicates session
      check none later) :
    on (turn program nested eventType registration event) session = (none, later) := by
  unfold turn
  rw [on_bind, on_offer_of_offered offered]
  unfold deliver
  rw [on_bind, on_admission_of_stops stops]
  rfl

theorem on_turn_of_refused (eventType : EventType)
    (offered : IsOffered session registration event) {answer : Except Payload Bool}
    (stops : Stops program nested registration event registration.subscriber.predicates session
      check (some answer) later) :
    on (turn program nested eventType registration event) session =
      settled eventType registration (verdictOn check answer) event
        (dismissed registration check answer later) := by
  refine on_turn_of_offer ((on_offer_of_offered offered).trans ?_)
  unfold deliver
  rw [on_bind, on_admission_of_stops stops]
  rcases check with place | _ <;> rcases answer with payload | _ <;> rfl

/-- The verdict on a receiver whose handler has come to an end. -/
def verdictOf : Except Payload (Except Report Unit) → Verdict
  | .error payload => .failed (.panicked payload)
  | .ok (.error report) => .failed (.returned report)
  | .ok (.ok ()) => .invoked

/-- The session after that: an invocation is counted if the handler has succeeded. -/
def counted (registration : Registration κ) :
    Except Payload (Except Report Unit) → Session σ ε κ → Session σ ε κ
  | .ok (.ok ()), session => (on (countInvocation registration) session).2
  | _, session => session

theorem on_turn_of_unended (eventType : EventType)
    (offered : IsOffered session registration event)
    (admits : Admits program nested registration event registration.subscriber.predicates session
      passed)
    (handled : on (handle program nested registration event) passed = (none, later)) :
    on (turn program nested eventType registration event) session = (none, later) := by
  unfold turn
  rw [on_bind, on_offer_of_offered offered]
  unfold deliver
  rw [on_bind, on_admission_of_admits admits]
  dsimp only
  rw [on_bind, handled]

theorem on_turn_of_handled (eventType : EventType)
    (offered : IsOffered session registration event)
    (admits : Admits program nested registration event registration.subscriber.predicates session
      passed) {result : Except Payload (Except Report Unit)} {left : ε}
    (handled : on (handle program nested registration event) passed =
      (some (result, left), later)) :
    on (turn program nested eventType registration event) session =
      settled eventType registration (verdictOf result) left
        (counted registration result later) := by
  refine on_turn_of_offer ((on_offer_of_offered offered).trans ?_)
  unfold deliver
  rw [on_bind, on_admission_of_admits admits]
  dsimp only
  rw [on_bind, handled]
  rcases result with payload | report | _
  · rfl
  · rfl
  · dsimp only
    rw [on_bind, countInvocation_ends]
    rfl

/-! ### What a turn puts on record -/

section

variable {mayHalt : Bool} {room : Nat}

omit [Event ε]

/-- The entries about predicates that were asked. -/
def testing (registration : Registration κ) (event : ε)
    (answers : List (Check × Except Payload Bool)) : List (Activity ε κ) :=
  answers.map fun answer => .tested registration answer.1 event answer.2

theorem nests_countInvocation (registration : Registration κ) :
    Nests mayHalt room (countInvocation registration : Run σ ε κ Unit) := by
  intro session
  obtain ⟨activities, extending⟩ := extends_countInvocation registration session
  have notes : Session.Notes { session with bus := session.bus.countInvocation registration.id }
      (on (countInvocation registration) session).2 [] := extending.notes
  rw [countInvocation_ends]
  exact Session.leads_of_ended notes extending.running

variable (inner : ∀ event, Nests mayHalt room (nested event))
  (halts : program.HaltsOnlyIf mayHalt)

include inner halts

theorem leads_ask (registration : Registration κ) (check : Check) (test : κ) (event : ε)
    (session : Session σ ε κ) :
    session.Leads mayHalt room (on (ask program nested registration check test event) session)
      ((on (ask program nested registration check test event) session).1.toList.map
        (.tested registration check event)) := by
  have script := nests_test inner halts test event session
  unfold ask
  rw [on_bind]
  rcases ended : on ((program.test test event).run (perform nested)) session with
    ⟨_ | answer, middle⟩
  · rw [ended] at script
    exact script.endless
  · rw [ended] at script
    exact script.trans (Session.leads_of_ended
      (middle.notes_record (List.forall_mem_singleton.mpr rfl)) rfl)

theorem Admits.leads
    (admits : Admits program nested registration event predicates session passed) :
    ∃ answers, Check.Answered predicates answers ∧
      session.Leads mayHalt room (some (), passed) (testing registration event answers) := by
  induction admits with
  | nil session =>
    exact ⟨[], .nil [], Session.leads_of_ended (.of_journal_eq rfl) rfl⟩
  | @cons check test rest session middle passed asked others ih =>
    obtain ⟨answers, answered, follow⟩ := ih
    have first := leads_ask inner halts registration check test event session
    rw [asked] at first
    exact ⟨_, answered.cons, first.trans follow⟩

theorem Stops.leads
    (stops : Stops program nested registration event predicates session check answer later) :
    ∃ answers, Check.Answered predicates answers ∧
      session.Leads mayHalt room (answer, later) (testing registration event answers) := by
  induction stops with
  | @here check test rest session later answer asked refuses =>
    have first := leads_ask inner halts registration check test event session
    rw [asked] at first
    cases answer with
    | none => exact ⟨[], .nil _, first⟩
    | some answer => exact ⟨_, .single answer, first⟩
  | @further before check test rest session middle later answer asked others ih =>
    obtain ⟨answers, answered, follow⟩ := ih
    have first := leads_ask inner halts registration before test event session
    rw [asked] at first
    exact ⟨_, answered.cons, first.trans follow⟩

theorem leads_handle (registration : Registration κ) (event : ε) (session : Session σ ε κ) :
    session.Leads mayHalt room (on (handle program nested registration event) session)
      [.handling registration event] := by
  have noted : session.Leads mayHalt room (some (), session.record [.handling registration event])
      [.handling registration event] :=
    Session.leads_of_ended (session.notes_record (List.forall_mem_singleton.mpr rfl)) rfl
  unfold handle
  rw [on_bind, on_note]
  exact noted.trans (nests_handler inner halts _ _ _ _)

omit inner halts in
theorem leads_dismissed {answer : Except Payload Bool} {own : List (Activity ε κ)}
    (leads : session.Leads mayHalt room (some answer, later) own) :
    session.Leads mayHalt room (some (), dismissed registration check answer later) own := by
  have stays : session.Leads mayHalt room (some (), later) own :=
    Session.leads_of_ended leads.notes (leads.returns rfl)
  rcases check with place | _ <;> rcases answer with payload | _
  · exact stays
  · exact stays
  · exact stays
  · have revoked := leads.trans (nests_revoke registration.subscription later)
    rw [List.append_nil] at revoked
    refine Session.leads_of_ended revoked.notes (revoked.returns ?_)
    rw [on_revoke]
    split <;> rfl

omit inner halts in
theorem leads_counted {result : Except Payload (Except Report Unit) × ε}
    {own : List (Activity ε κ)}
    (leads : session.Leads mayHalt room (some result, later) own) :
    session.Leads mayHalt room (some (), counted registration result.1 later) own := by
  have stays : session.Leads mayHalt room (some (), later) own :=
    Session.leads_of_ended leads.notes (leads.returns rfl)
  obtain ⟨payload | report | _, left⟩ := result
  · exact stays
  · exact stays
  · have invoked := leads.trans (nests_countInvocation registration later)
    rw [List.append_nil, countInvocation_ends] at invoked
    exact invoked

omit inner halts in
/-- A turn that has come to its end is put on record. -/
theorem leads_settled (eventType : EventType) (verdict : Verdict) (left : ε)
    {own : List (Activity ε κ)} {result : α}
    (leads : session.Leads mayHalt room (some result, later) own) :
    session.Leads mayHalt room (settled eventType registration verdict left later)
      (own ++ [.settled eventType ⟨registration, verdict⟩]) :=
  leads.trans (Session.leads_of_ended
    (later.notes_record (List.forall_mem_singleton.mpr rfl)) rfl)

/-- What a turn puts on record at the depth of its dispatch: the predicates that were asked, the
handler if it was started, and the end if there was one. -/
def marks (eventType : EventType) (registration : Registration κ) (event : ε)
    (answers : List (Check × Except Payload Bool)) (started : Bool)
    (result : Option (Turn κ × ε)) : List (Activity ε κ) :=
  testing registration event answers ++ (if started then [.handling registration event] else []) ++
    result.toList.map fun result => .settled eventType result.1

variable [Event ε]

theorem leads_turn_of_stops (eventType : EventType)
    (offered : IsOffered session registration event)
    (stops : Stops program nested registration event registration.subscriber.predicates session
      check answer later) :
    ∃ answers, Check.Answered registration.subscriber.predicates answers ∧
      session.Leads mayHalt room (on (turn program nested eventType registration event) session)
        (marks eventType registration event answers false
          (on (turn program nested eventType registration event) session).1) := by
  obtain ⟨answers, answered, leads⟩ := stops.leads inner halts
  refine ⟨answers, answered, ?_⟩
  unfold marks
  rw [if_neg Bool.false_ne_true, List.append_nil]
  cases answer with
  | none =>
    rw [on_turn_of_unanswered eventType offered stops, Option.toList_none, List.map_nil,
      List.append_nil]
    exact leads.endless
  | some answer =>
    rw [on_turn_of_refused eventType offered stops]
    exact leads_settled eventType _ event (leads_dismissed leads)

theorem leads_turn_of_admits (eventType : EventType)
    (offered : IsOffered session registration event)
    (admits : Admits program nested registration event registration.subscriber.predicates session
      passed) :
    ∃ answers, Check.Answered registration.subscriber.predicates answers ∧
      session.Leads mayHalt room (on (turn program nested eventType registration event) session)
        (marks eventType registration event answers true
          (on (turn program nested eventType registration event) session).1) := by
  obtain ⟨answers, answered, leads⟩ := admits.leads inner halts
  have handling := leads.trans (leads_handle inner halts registration event passed)
  refine ⟨answers, answered, ?_⟩
  unfold marks
  rw [if_pos rfl]
  rcases handled : on (handle program nested registration event) passed with
    ⟨_ | ⟨result, left⟩, later⟩
  · rw [handled] at handling
    rw [on_turn_of_unended eventType offered admits handled, Option.toList_none, List.map_nil,
      List.append_nil]
    exact handling.endless
  · rw [handled] at handling
    rw [on_turn_of_handled eventType offered admits handled]
    exact leads_settled eventType _ left (leads_counted handling)

/-- **What a turn puts on record**, at the depth of its dispatch. Only the predicates of a receiver
that is not passed over are asked, and its handler is started exactly when the event passes all of
them. -/
theorem leads_turn (eventType : EventType) (registration : Registration κ) (event : ε)
    (session : Session σ ε κ) :
    ∃ (answers : List (Check × Except Payload Bool)) (started : Bool),
      session.Leads mayHalt room (on (turn program nested eventType registration event) session)
        (marks eventType registration event answers started
          (on (turn program nested eventType registration event) session).1) ∧
      Check.Answered registration.subscriber.predicates answers ∧
      (answers ≠ [] → IsOffered session registration event) ∧
      (started = true ↔ IsOffered session registration event ∧ ∃ passed,
        Admits program nested registration event registration.subscriber.predicates session
          passed) := by
  by_cases offered : IsOffered session registration event
  · rcases admits_or_stops program nested registration event registration.subscriber.predicates
      session with ⟨passed, admits⟩ | ⟨check, answer, later, stops⟩
    · obtain ⟨answers, answered, leads⟩ :=
        leads_turn_of_admits inner halts eventType offered admits
      exact ⟨answers, true, leads, answered, fun _ => offered,
        fun _ => ⟨offered, passed, admits⟩, fun _ => rfl⟩
    · obtain ⟨answers, answered, leads⟩ := leads_turn_of_stops inner halts eventType offered stops
      refine ⟨answers, false, leads, answered, fun _ => offered,
        fun started => absurd started Bool.false_ne_true, ?_⟩
      rintro ⟨-, passed, admits⟩
      exact absurd admits stops.not_admits
  · refine ⟨[], false, ?_, .nil _, fun asked => absurd rfl asked,
      fun started => absurd started Bool.false_ne_true, fun started => absurd started.1 offered⟩
    rw [on_turn_of_declined eventType offered]
    exact Session.leads_of_ended (session.notes_record (List.forall_mem_singleton.mpr rfl)) rfl

end

end Dispatch

end ExtensionHost
