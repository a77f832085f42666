/-
**Where only limits end registrations, each one stays on the bus until its limit is used up.**

* `Bus.Keeps`: of these registrations, the bus has those that have invocations left.
* `Bus.Spends`: the later bus has counted one more invocation under each of these numbers.
* `Keeps.of_gains`, `Keeps.of_countInvocation`: one more registration, and one more invocation, after
  which the registration leaves the bus if it was the last one.
* `Subscriber.IsPlain`: there are no predicates, so that an event is always delivered.
* `Dispatch.on_offer_of_plain`: what a plain receiver makes of an event when its handler succeeds.
-/

import ExtensionHost.Proofs.Bus.Outdated

namespace ExtensionHost

variable {σ ε κ : Type}

theorem Run.on_revoke_of_found {session : Session σ ε κ} {subscription : Subscription}
    {registration : Registration κ} {bus : Bus κ}
    (found : session.bus.revoke? subscription = some (registration, bus)) :
    on (revoke subscription) session =
      (some true, Session.record { session with bus } [.revoked registration]) := by
  rw [on_revoke, found]

theorem Standing.remaining_initial_ne (subscriber : Subscriber κ) :
    (initial subscriber).remaining ≠ some 0 := by
  intro none_left
  obtain ⟨limit, -, zero⟩ := Option.map_eq_some_iff.mp none_left
  exact Nat.ne_of_gt limit.property zero

/-! ### Registrations that are kept -/

namespace Bus

/-- Of these registrations, the bus has those that have invocations left, and no others. -/
structure Keeps (bus : Bus κ) (registrations : List (Registration κ)) : Prop
    extends Coherent bus where
  /-- Someone holds the bus. -/
  held : 0 < bus.handles
  /-- Later registrations have higher numbers. -/
  ascending : registrations.Pairwise fun first second => first.id < second.id
  given : ∀ registration ∈ registrations, registration.id < bus.nextId
  mem_iff : ∀ {eventType registration}, registration ∈ bus.setOf eventType ↔
    registration ∈ registrations ∧ registration.eventType = eventType ∧
      (bus.standing registration.id).remaining ≠ some 0

/-- The later bus has counted one more invocation under each of these numbers. -/
structure Spends (bus : Bus κ) (ids : List Nat) (later : Bus κ) : Prop where
  hierarchy : later.hierarchy = bus.hierarchy
  remaining : ∀ id, (later.standing id).remaining =
    if id ∈ ids then (bus.standing id).remaining.map (· - 1) else (bus.standing id).remaining

variable {bus middle later : Bus κ} {registrations : List (Registration κ)}
  {registration : Registration κ}

theorem Spends.of_eq (hierarchy : later.hierarchy = bus.hierarchy)
    (standing : ∀ id, later.standing id = bus.standing id) : bus.Spends [] later where
  hierarchy := hierarchy
  remaining id := by rw [if_neg List.not_mem_nil, standing]

theorem Spends.trans {first second : List Nat} (early : bus.Spends first middle)
    (late : middle.Spends second later) (apart : first.Disjoint second) :
    bus.Spends (first ++ second) later where
  hierarchy := late.hierarchy.trans early.hierarchy
  remaining id := by
    rw [late.remaining, early.remaining]
    by_cases before : id ∈ first
    · rw [if_neg (apart before), if_pos before, if_pos (List.mem_append_left _ before)]
    · rw [if_neg before]
      simp only [List.mem_append, before, false_or]

theorem Spends.of_loses {ids : List Nat} {gone : Nat → Bool} (spends : bus.Spends ids middle)
    (loses : middle.Loses gone later) : bus.Spends ids later where
  hierarchy := loses.hierarchy.trans spends.hierarchy
  remaining id := by
    rw [← spends.remaining, loses.standing]
    split <;> rfl

theorem spends_countInvocation (bus : Bus κ) (id : Nat) :
    bus.Spends [id] (bus.countInvocation id) where
  hierarchy := rfl
  remaining other := by
    rw [standing_countInvocation]
    by_cases same : other = id
    · rw [if_pos same, if_pos (List.mem_singleton.mpr same)]
      rfl
    · rw [if_neg same, if_neg (mt List.mem_singleton.mp same)]

theorem exists_revoke? (alive : bus.isAlive = true)
    (member : registration ∈ bus.setOf registration.eventType) :
    ∃ found later, bus.revoke? registration.subscription = some (found, later) := by
  have present : (bus.find? registration.subscription).isSome = true := by
    unfold find?
    rw [if_pos alive, List.find?_isSome]
    exact ⟨registration, member, decide_eq_true rfl⟩
  obtain ⟨found, is⟩ := Option.isSome_iff_exists.mp present
  unfold revoke?
  rw [is]
  exact ⟨found, _, rfl⟩

namespace Keeps

theorem isAlive (keeps : bus.Keeps registrations) : bus.isAlive = true := by
  unfold Bus.isAlive
  rw [decide_eq_true keeps.held, Bool.true_or]

theorem start (hierarchy : Hierarchy) : ({ hierarchy } : Bus κ).Keeps [] where
  toCoherent := coherent_start hierarchy
  held := Nat.one_pos
  ascending := List.Pairwise.nil
  given _ member := absurd member List.not_mem_nil
  mem_iff := iff_of_false List.not_mem_nil fun kept => List.not_mem_nil kept.1

/-- Nothing changes but what the bus knows, and what it is used for. -/
theorem congr (keeps : bus.Keeps registrations) (coherent : later.Coherent)
    (handles : later.handles = bus.handles) (nextId : later.nextId = bus.nextId)
    (setOf : ∀ eventType, later.setOf eventType = bus.setOf eventType)
    (standing : ∀ id, later.standing id = bus.standing id) : later.Keeps registrations where
  toCoherent := coherent
  held := handles ▸ keeps.held
  ascending := keeps.ascending
  given := nextId ▸ keeps.given
  mem_iff := by
    intro eventType registration
    rw [setOf, standing]
    exact keeps.mem_iff

theorem of_receivers (keeps : bus.Keeps registrations) (eventType : EventType) :
    (bus.receivers eventType).bus.Keeps registrations := by
  have coherent := keeps.toCoherent.of_receivers eventType
  obtain ⟨cache, same⟩ := bus.receivers_bus eventType
  rw [same] at coherent ⊢
  exact keeps.congr coherent rfl rfl (fun _ => rfl) fun _ => rfl

theorem run (keeps : bus.Keeps registrations) (running : Nat) :
    ({ bus with running } : Bus κ).Keeps registrations :=
  keeps.congr (keeps.toCoherent.hold bus.handles running) rfl rfl (fun _ => rfl) fun _ => rfl

theorem of_gains (keeps : bus.Keeps registrations) (gains : bus.Gains registration later) :
    later.Keeps (registrations ++ [registration]) where
  toCoherent := keeps.toCoherent.of_gains gains
  held := gains.handles ▸ keeps.held
  ascending := by
    refine List.pairwise_append.mpr ⟨keeps.ascending, List.pairwise_singleton _ _, ?_⟩
    intro old member new last
    rw [List.mem_singleton.mp last, gains.id_eq]
    exact keeps.given old member
  given other member := by
    rw [gains.nextId]
    rcases List.mem_append.mp member with old | new
    · exact Nat.lt_succ_of_lt (keeps.given other old)
    · rw [List.mem_singleton.mp new, gains.id_eq]
      exact Nat.lt_succ_self _
  mem_iff := by
    intro eventType other
    have unused := Standing.remaining_initial_ne registration.subscriber
    rw [gains.mem_setOf, keeps.mem_iff, gains.standing, List.mem_append, List.mem_singleton]
    by_cases new : other = registration
    · subst new
      have absent : other ∉ registrations := fun old =>
        absurd gains.id_eq (Nat.ne_of_lt (keeps.given other old))
      simp [absent, unused, eq_comm]
    · by_cases same : other.id = registration.id
      · have absent : other ∉ registrations := fun old =>
          absurd (same.trans gains.id_eq) (Nat.ne_of_lt (keeps.given other old))
        simp [absent, new]
      · simp [new, same]

/-- One more invocation is counted, and the registration is gone if none is left. -/
theorem of_spends (keeps : bus.Keeps registrations) (coherent : later.Coherent) {id : Nat}
    (handles : later.handles = bus.handles) (nextId : later.nextId = bus.nextId)
    (spends : bus.Spends [id] later)
    (setOf : ∀ eventType other, other ∈ later.setOf eventType ↔ other ∈ bus.setOf eventType ∧
      (other.id = id → (later.standing id).remaining ≠ some 0)) :
    later.Keeps registrations where
  toCoherent := coherent
  held := handles ▸ keeps.held
  ascending := keeps.ascending
  given := nextId ▸ keeps.given
  mem_iff := by
    intro eventType other
    rw [setOf, keeps.mem_iff]
    by_cases same : other.id = id
    · have left : (bus.standing other.id).remaining = some 0 →
          (later.standing other.id).remaining = some 0 := by
        intro none_left
        rw [spends.remaining, if_pos (List.mem_singleton.mpr same), none_left]
        rfl
      rw [← same]
      exact ⟨fun kept => ⟨kept.1.1, kept.1.2.1, kept.2 rfl⟩,
        fun kept => ⟨⟨kept.1, kept.2.1, mt left kept.2.2⟩, fun _ => kept.2.2⟩⟩
    · have kept := spends.remaining other.id
      rw [if_neg (mt List.mem_singleton.mp same)] at kept
      rw [kept]
      exact and_iff_left fun equal => absurd equal same

/-- An invocation of what is on the bus is counted, and the last one takes it away. -/
theorem of_countInvocation {session : Session σ ε κ} (keeps : session.bus.Keeps registrations)
    {eventType : EventType} (member : registration ∈ session.bus.setOf eventType) :
    ∃ later, Run.on (Dispatch.countInvocation registration) session = (some (), later) ∧
      later.memory = session.memory ∧ later.bus.Keeps registrations ∧
      session.bus.Spends [registration.id] later.bus := by
  obtain ⟨-, rfl, left⟩ := keeps.mem_iff.mp member
  have counted := keeps.toCoherent.of_countInvocation registration.id
  have spends := session.bus.spends_countInvocation registration.id
  have remaining := spends.remaining registration.id
  rw [if_pos List.mem_cons_self] at remaining
  rw [Dispatch.on_countInvocation]
  by_cases last : (session.bus.standing registration.id).remaining = some 1
  · obtain ⟨found, later, revoked⟩ :=
      @exists_revoke? _ (session.bus.countInvocation registration.id) _ keeps.isAlive member
    have loses := counted.toSound.loses_revoked revoked
    have spent := spends.of_loses loses
    have kept : later.Keeps registrations := by
      refine keeps.of_spends (counted.of_revoke revoked) loses.handles loses.nextId spent ?_
      intro other_type other
      have none_left := spent.remaining registration.id
      rw [if_pos List.mem_cons_self, last] at none_left
      rw [loses.mem_setOf, decide_eq_false_iff_not]
      exact and_congr_right fun _ =>
        ⟨fun apart same => absurd same apart, fun kept same => kept same none_left⟩
    have ended := @Run.on_revoke_of_found _ _ _
      { session with bus := session.bus.countInvocation registration.id } _ _ _ revoked
    refine ⟨_, if_pos last, ?_⟩
    rw [ended]
    exact ⟨rfl, kept, spent⟩
  · refine ⟨_, if_neg last, rfl, keeps.of_spends counted rfl rfl spends ?_, spends⟩
    intro other_type other
    refine (and_iff_left fun same none_left => ?_).symm
    rw [remaining] at none_left
    obtain ⟨count, is, zero⟩ := Option.map_eq_some_iff.mp none_left
    have few : count = 0 ∨ count = 1 := by omega
    rcases few with rfl | rfl
    · exact left is
    · exact last is

/-- As long as no limit is used up, all registrations are on the bus. -/
theorem registrations_eq (keeps : bus.Keeps registrations)
    (left : ∀ registration ∈ registrations,
      (bus.standing registration.id).remaining ≠ some 0) :
    bus.registrations = registrations := by
  refine Registration.eq_of_mem_iff keeps.toSound.increasing_registrations keeps.ascending
    fun registration => ?_
  rw [mem_registrations]
  constructor
  · rintro ⟨eventType, stored⟩
    exact (keeps.mem_iff.mp stored).1
  · exact fun listed => ⟨_, keeps.mem_iff.mpr ⟨listed, rfl, left registration listed⟩⟩

end Keeps

end Bus

/-! ### Receivers without predicates -/

/-- There are no filters, and no predicate that ends the registration. -/
def Subscriber.IsPlain (subscriber : Subscriber κ) : Prop :=
  subscriber.filters = [] ∧ subscriber.expireWhen = none

namespace Dispatch

variable {program : Program σ ε κ} {nested : ε → Run σ ε κ (ε × Outcome κ)}
  {registration : Registration κ} {event left : ε} {session later : Session σ ε κ}

theorem on_admission_of_plain (plain : registration.subscriber.IsPlain) (event : ε)
    (session : Session σ ε κ) :
    Run.on (admission program nested registration event) session =
      (some (.ok .admitted), session) := by
  unfold admission askExpiry
  rw [plain.1, plain.2]
  rfl

/-- An event that is not cancelled is delivered, and a handler that succeeds counts as invoked. -/
theorem on_offer_of_plain [Event ε] (plain : registration.subscriber.IsPlain)
    (live : (session.bus.standing registration.id).live = true)
    (uncancelled : Event.isCancelled event = false)
    (handled : Run.on (handle program nested registration event) session =
      (some (.ok (.ok ()), left), later)) {counted : Session σ ε κ}
    (counts : Run.on (countInvocation registration) later = (some (), counted)) :
    Run.on (offer program nested registration event) session =
      (some (.invoked, left), counted) := by
  unfold offer
  rw [Run.on_bind, Run.on_bus]
  dsimp only
  rw [live, uncancelled, Bool.not_true, Bool.false_and, if_neg Bool.false_ne_true,
    if_neg Bool.false_ne_true]
  unfold deliver
  rw [Run.on_bind, on_admission_of_plain plain]
  dsimp only
  rw [Run.on_bind, handled]
  dsimp only
  rw [Run.on_bind, counts]
  rfl

/-- The session in which a dispatch to receivers of this type begins. -/
def begun (session : Session σ ε κ) (eventType : EventType) : Session σ ε κ :=
  let receivers := session.bus.receivers eventType
  let collected := Session.record { session with bus := receivers.bus }
    (Run.collecting session.bus eventType)
  (collected.withRunning (collected.bus.running + 1)).record [.began eventType receivers.list]

/-- What comes of a dispatch when this has come of the turns. -/
def concluded (eventType : EventType) :
    Option (List (Turn κ) × ε) × Session σ ε κ → Option (ε × Outcome κ) × Session σ ε κ
  | (none, later) => (none, later)
  | (some (turns, left), later) =>
    (some (left, { eventType, turns }), later.withRunning (later.bus.running - 1))

/-- With receivers, a dispatch consists of their turns. -/
theorem on_dispatch_of_occupied [Event ε] {depth : Nat}
    (occupied : (session.bus.receivers (Event.eventType event)).list ≠ []) :
    Run.on (dispatch program (depth + 1) event) session =
      concluded (Event.eventType event)
        (Run.on (turns program (dispatch program depth) (Event.eventType event)
          (session.bus.receivers (Event.eventType event)).list event)
          (begun session (Event.eventType event))) := by
  show Run.on (dispatchWith program (dispatch program depth) event) session = _
  unfold dispatchWith
  rw [Run.on_bind, Run.on_receivers]
  dsimp only
  rw [if_neg (mt List.isEmpty_iff.mp occupied), Run.on_bind, on_setRunning]
  dsimp only
  rw [Run.on_bind, Run.on_note]
  show Run.on (turns program (dispatch program depth) (Event.eventType event)
    (session.bus.receivers (Event.eventType event)).list event >>= _)
    (begun session (Event.eventType event)) = _
  rw [Run.on_bind]
  generalize Run.on (turns _ _ _ _ event) (begun session (Event.eventType event)) = outcome
  rcases outcome with ⟨_ | result, later⟩ <;> rfl

theorem on_dispatch_of_turns [Event ε] {depth : Nat} {served : List (Turn κ)}
    (occupied : (session.bus.receivers (Event.eventType event)).list ≠ [])
    (ended : Run.on (turns program (dispatch program depth) (Event.eventType event)
        (session.bus.receivers (Event.eventType event)).list event)
      (begun session (Event.eventType event)) = (some (served, left), later)) :
    Run.on (dispatch program (depth + 1) event) session =
      (some (left, { eventType := Event.eventType event, turns := served }),
        later.withRunning (later.bus.running - 1)) := by
  rw [on_dispatch_of_occupied occupied, ended]
  rfl

end Dispatch

end ExtensionHost
