/-
**A registration that does not receive an event has no part in its dispatch.**

The dispatch of an event is compared with the same dispatch on a bus without that registration. The
two buses may know different lists of receivers, but the list for the event is the same; and as long
as the code of the receivers leaves the bus alone, nothing else that a dispatch reads is different.

* `Script.Asks`, `Program.LeavesAlone`: the code of a registration uses the shared memory, and maybe
  handles to the bus, but does not operate on the bus.
* `Bus.Without`, `Session.Without`: the same bus and the same session without a registration.
* `Bus.Spares`: a registration is left as it is.
* `Bus.Without.receivers_eq`: the receivers of an event are the same without a registration that is
  not among them, whatever receivers either bus knows.
* `Run.Disregards`: a computation that does the same with a registration and without it.
* `disregards_deliver`, `disregards_turns` and their like: so do all parts of a dispatch to others.
* `unaffected_by_bystander`: the whole dispatch, in every session.
-/

import ExtensionHost.Proofs.Bus.Outdated
import ExtensionHost.Proofs.Event.Ancestry
import Mathlib.Data.List.Find

namespace ExtensionHost

variable {σ ε κ α β : Type}

/-! ### Code that leaves the bus alone -/

section

variable {R : Type} {Answer : R → Type}

/-- Whatever a script asks for, and whatever the answers are, is allowed. -/
def Script.Asks (allowed : R → Prop) : Script R Answer α → Prop
  | done _ | panic _ => True
  | ask request next => allowed request ∧ ∀ answer, (next answer).Asks allowed

/-- What holds of computations one after the other, and of the answer to each request that is
allowed, holds of a script. -/
theorem Script.run_of_asks {m : Type → Type} [Monad m]
    {perform : (request : R) → m (Answer request)} {allowed : R → Prop}
    (Holds : ∀ {γ : Type}, m γ → Prop) (plain : ∀ {γ : Type} (value : γ), Holds (pure value : m γ))
    (bind : ∀ {γ δ : Type} {run : m γ} {next : γ → m δ}, Holds run →
      (∀ value, Holds (next value)) → Holds (run >>= next))
    (each : ∀ request, allowed request → Holds (perform request)) {script : Script R Answer α}
    (asks : script.Asks allowed) : Holds (script.run perform) := by
  induction script with
  | done value => exact plain _
  | panic payload => exact plain _
  | ask request next ih => exact bind (each request asks.1) fun answer => ih answer (asks.2 answer)

end

/-- What code asks for that leaves the bus alone: it uses the memory, takes handles and gives them
up. Maybe it goes no further. -/
def Request.IsDetached (mayHalt : Bool) : Request σ ε κ → Prop
  | memory | remember _ | retain | release => True
  | halt => mayHalt = true
  | _ => False

/-- A handler may change the event besides. -/
def HandlerRequest.IsDetached (mayHalt : Bool) : HandlerRequest σ ε κ → Prop
  | plain request => request.IsDetached mayHalt
  | amend _ => True
  | redispatch => False

/-- The predicates and the handler of a registration leave the bus alone. -/
structure Program.LeavesAlone (program : Program σ ε κ) (mayHalt : Bool)
    (registration : Registration κ) : Prop where
  filters : ∀ filter ∈ registration.subscriber.filters, ∀ event,
    (program.test filter event).Asks (Request.IsDetached mayHalt)
  expiry : ∀ test ∈ registration.subscriber.expireWhen, ∀ event,
    (program.test test event).Asks (Request.IsDetached mayHalt)
  handler : ∀ event,
    (program.handle registration.subscriber.handler registration.subscription event).Asks
      (HandlerRequest.IsDetached mayHalt)

/-! ### With and without a registration -/

namespace Bus

/-- The other bus is the same but for one registration that it has not. The lists of receivers that
the two know may differ. -/
structure Without (bus : Bus κ) (absent : Registration κ) (other : Bus κ) : Prop where
  hierarchy : other.hierarchy = bus.hierarchy
  handles : other.handles = bus.handles
  running : other.running = bus.running
  setOf : ∀ eventType,
    other.setOf eventType = (bus.setOf eventType).filter (·.id ≠ absent.id)
  standing : ∀ id, id ≠ absent.id → other.standing id = bus.standing id

/-- The later bus has a registration as it was, if it was there. -/
structure Spares (bus : Bus κ) (bystander : Registration κ) (later : Bus κ) : Prop where
  standing : later.standing bystander.id = bus.standing bystander.id
  mem_setOf : ∀ {eventType}, bystander ∈ bus.setOf eventType → bystander ∈ later.setOf eventType

variable {bus middle later other : Bus κ} {registration bystander : Registration κ}
  {subscription : Subscription} {eventType : EventType}

theorem Spares.refl (bus : Bus κ) (bystander : Registration κ) : bus.Spares bystander bus :=
  ⟨rfl, id⟩

theorem Spares.trans (early : bus.Spares bystander middle) (late : middle.Spares bystander later) :
    bus.Spares bystander later where
  standing := late.standing.trans early.standing
  mem_setOf member := late.mem_setOf (early.mem_setOf member)

/-! #### Revoking another registration -/

theorem exists_revoke?_of_find? (present : bus.find? subscription = some registration) :
    ∃ later, bus.revoke? subscription = some (registration, later) := by
  unfold revoke?
  rw [present]
  exact ⟨_, rfl⟩

theorem setOf_revoked (found : bus.revoke? subscription = some (registration, later))
    (eventType : EventType) :
    later.setOf eventType =
      if eventType = subscription.eventType then
        (bus.setOf eventType).filter (·.id ≠ subscription.id)
      else bus.setOf eventType := by
  obtain ⟨-, rfl⟩ := revoke?_eq_some found
  show ((bus.setSet _ _).get? eventType).getD [] = _
  rw [getD_setSet]
  split
  · rename_i same
    rw [same]
  · rfl

theorem standing_revoked (found : bus.revoke? subscription = some (registration, later))
    (id : Nat) :
    later.standing id =
      if id = subscription.id then (bus.standing id).expire else bus.standing id := by
  obtain ⟨-, rfl⟩ := revoke?_eq_some found
  exact standing_modify _ _ _ _ rfl

theorem spares_of_revoke (apart : subscription.id ≠ bystander.id)
    (found : bus.revoke? subscription = some (registration, later)) :
    bus.Spares bystander later where
  standing := by rw [standing_revoked found, if_neg apart.symm]
  mem_setOf member := by
    rw [setOf_revoked found]
    split
    · exact List.mem_filter.mpr ⟨member, decide_eq_true apart.symm⟩
    · exact member

theorem spares_countInvocation {id : Nat} (apart : id ≠ bystander.id) :
    bus.Spares bystander (bus.countInvocation id) where
  standing := by rw [standing_countInvocation, if_neg apart.symm]
  mem_setOf member := member

theorem spares_receivers (bus : Bus κ) (bystander : Registration κ) (eventType : EventType) :
    bus.Spares bystander (bus.receivers eventType).bus := by
  obtain ⟨cache, same⟩ := bus.receivers_bus eventType
  rw [same]
  exact ⟨rfl, id⟩

namespace Without

/-- A handle to another registration finds the same. -/
theorem find?_eq (without : bus.Without bystander other) (apart : subscription.id ≠ bystander.id) :
    other.find? subscription = bus.find? subscription := by
  have alive : other.isAlive = bus.isAlive := by
    unfold isAlive
    rw [without.handles, without.running]
  unfold find?
  rw [alive, without.setOf, List.find?_filter]
  congr 1
  refine List.find?_congr fun registration _ => ?_
  rw [decide_eq_decide, decide_eq_true_iff, decide_eq_true_iff]
  refine and_iff_right_of_imp fun same => ?_
  rw [same]
  exact apart

theorem of_revoke (without : bus.Without bystander other) (apart : subscription.id ≠ bystander.id)
    (found : bus.revoke? subscription = some (registration, later)) :
    ∃ otherLater, other.revoke? subscription = some (registration, otherLater) ∧
      later.Without bystander otherLater := by
  have present : other.find? subscription = some registration :=
    (without.find?_eq apart).trans (revoke?_eq_some found).1
  obtain ⟨otherLater, otherFound⟩ := exists_revoke?_of_find? present
  refine ⟨otherLater, otherFound, ?_, ?_, ?_, fun eventType => ?_, fun id different => ?_⟩
  · rw [(revoke?_eq_some found).2, (revoke?_eq_some otherFound).2]
    exact without.hierarchy
  · rw [(revoke?_eq_some found).2, (revoke?_eq_some otherFound).2]
    exact without.handles
  · rw [(revoke?_eq_some found).2, (revoke?_eq_some otherFound).2]
    exact without.running
  · rw [setOf_revoked found, setOf_revoked otherFound, without.setOf]
    split
    · exact List.filter_comm _ _ _
    · rfl
  · rw [standing_revoked found, standing_revoked otherFound, without.standing id different]

theorem revoke?_eq_none (without : bus.Without bystander other)
    (apart : subscription.id ≠ bystander.id) (absent : bus.revoke? subscription = none) :
    other.revoke? subscription = none := by
  unfold revoke? at absent ⊢
  rw [Option.map_eq_none_iff] at absent ⊢
  rw [without.find?_eq apart, absent]

theorem countInvocation (without : bus.Without bystander other) (id : Nat) :
    (bus.countInvocation id).Without bystander (other.countInvocation id) where
  hierarchy := without.hierarchy
  handles := without.handles
  running := without.running
  setOf := without.setOf
  standing target different := by
    rw [standing_countInvocation, standing_countInvocation, without.standing target different]

theorem withHandles (without : bus.Without bystander other) (handles : Nat) :
    { bus with handles }.Without bystander { other with handles } where
  hierarchy := without.hierarchy
  handles := rfl
  running := without.running
  setOf := without.setOf
  standing := without.standing

theorem withRunning (without : bus.Without bystander other) (running : Nat) :
    { bus with running }.Without bystander { other with running } where
  hierarchy := without.hierarchy
  handles := without.handles
  running := rfl
  setOf := without.setOf
  standing := without.standing

/-- What the buses know makes no difference. -/
theorem receivers (without : bus.Without bystander other) (eventType : EventType) :
    (bus.receivers eventType).bus.Without bystander (other.receivers eventType).bus := by
  obtain ⟨cache, same⟩ := bus.receivers_bus eventType
  obtain ⟨otherCache, otherSame⟩ := other.receivers_bus eventType
  rw [same, otherSame]
  exact ⟨without.hierarchy, without.handles, without.running, without.setOf, without.standing⟩

/-! #### The receivers of an event -/

/-- The sets of a lineage without the type of a registration do not hold it. -/
theorem setOf_of_unrelated (without : bus.Without bystander other) (sound : bus.Sound)
    (stored : bystander ∈ bus.setOf bystander.eventType)
    (unrelated : bystander.eventType ∉ bus.hierarchy.lineage eventType) {ancestor : EventType}
    (above : ancestor ∈ bus.hierarchy.lineage eventType) :
    (∀ registration ∈ bus.setOf ancestor, registration.id ≠ bystander.id) ∧
      other.setOf ancestor = bus.setOf ancestor := by
  have different : ∀ registration ∈ bus.setOf ancestor, registration.id ≠ bystander.id := by
    intro registration member same
    obtain rfl := sound.apart stored member same
    exact unrelated above
  refine ⟨different, ?_⟩
  rw [without.setOf, List.filter_eq_self]
  exact fun registration member => decide_eq_true (different registration member)

theorem receivers_eq (without : bus.Without bystander other) (coherent : bus.Coherent)
    (otherCoherent : other.Coherent) (stored : bystander ∈ bus.setOf bystander.eventType)
    (unrelated : bystander.eventType ∉ bus.hierarchy.lineage eventType) :
    (other.receivers eventType).list = (bus.receivers eventType).list := by
  by_cases declared : bus.hierarchy.contains eventType = true
  · -- known or computed, a list is determined by what it holds, since it is in strict order
    have lists := otherCoherent.lists_receivers (without.hierarchy ▸ declared)
    refine Lists.eq ⟨declared, fun registration => ?_, lists.increasing⟩
      (coherent.lists_receivers declared)
    rw [lists.mem_iff, without.hierarchy]
    refine exists_congr fun ancestor => and_congr_right fun above => ?_
    rw [(without.setOf_of_unrelated coherent.toSound stored unrelated above).2]
  · rw [receivers_of_undeclared declared, receivers_of_undeclared (without.hierarchy ▸ declared)]

end Without

/-- The receivers of an event are stored for the types of its lineage. -/
theorem mem_receivers (coherent : bus.Coherent)
    (member : registration ∈ (bus.receivers eventType).list) :
    ∃ ancestor ∈ bus.hierarchy.lineage eventType, registration ∈ bus.setOf ancestor := by
  by_cases declared : bus.hierarchy.contains eventType = true
  · exact ((coherent.lists_receivers declared).mem_iff registration).mp member
  · rw [receivers_of_undeclared declared] at member
    exact absurd member List.not_mem_nil

end Bus

/-! ### Computations that have nothing to do with a registration -/

/-- The other session is at the same point, on a bus without one registration. What is on record
may differ. -/
structure Session.Without (session : Session σ ε κ) (absent : Registration κ)
    (other : Session σ ε κ) : Prop where
  bus : session.bus.Without absent other.bus
  memory : other.memory = session.memory

/-- The session in which the receivers of an event type are known. -/
def Session.collected (session : Session σ ε κ) (eventType : EventType) : Session σ ε κ :=
  Session.record { session with bus := (session.bus.receivers eventType).bus }
    (Run.collecting session.bus eventType)

theorem Session.Without.collected {session other : Session σ ε κ} {absent : Registration κ}
    (without : session.Without absent other) (eventType : EventType) :
    (session.collected eventType).Without absent (other.collected eventType) :=
  ⟨without.bus.receivers eventType, without.memory⟩

theorem Session.Without.countInvocation {session other : Session σ ε κ}
    {absent : Registration κ} (without : session.Without absent other) (id : Nat) :
    Session.Without { session with bus := session.bus.countInvocation id } absent
      { other with bus := other.bus.countInvocation id } :=
  ⟨without.bus.countInvocation id, without.memory⟩

/-- A computation that does the same with a registration and without it, and leaves it alone. It
comes to an end, unless the code that it runs may halt. -/
structure Run.Disregards (bystander : Registration κ) (mayHalt : Bool) (run : Run σ ε κ α) :
    Prop where
  agrees : ∀ {session other}, session.Without bystander other →
    (on run other).1 = (on run session).1 ∧ (on run session).2.Without bystander (on run other).2
  spares : ∀ session : Session σ ε κ, session.bus.Spares bystander (on run session).2.bus
  ends : mayHalt = false → ∀ session, (on run session).1.isSome = true

section

variable {bystander : Registration κ} {mayHalt : Bool}

namespace Run

theorem disregards_pure (value : α) :
    Disregards bystander mayHalt (pure value : Run σ ε κ α) where
  agrees without := ⟨rfl, without⟩
  spares session := .refl session.bus bystander
  ends _ _ := rfl

theorem disregards_diverge (halts : mayHalt = true) :
    Disregards bystander mayHalt (diverge : Run σ ε κ α) where
  agrees without := ⟨rfl, without⟩
  spares session := .refl session.bus bystander
  ends goesOn _ := absurd (goesOn.symm.trans halts) Bool.false_ne_true

theorem Disregards.bind {run : Run σ ε κ α} {next : α → Run σ ε κ β}
    (first : Disregards bystander mayHalt run)
    (others : ∀ value, Disregards bystander mayHalt (next value)) :
    Disregards bystander mayHalt (run >>= next) where
  agrees {session other} without := by
    have both := first.agrees without
    rw [on_bind, on_bind]
    generalize on run session = outcome at both ⊢
    generalize on run other = otherOutcome at both ⊢
    obtain ⟨result, middle⟩ := outcome
    obtain ⟨otherResult, otherMiddle⟩ := otherOutcome
    obtain ⟨rfl, still⟩ := both
    -- either both go on, with the same value, or neither does
    cases otherResult with
    | none => exact ⟨rfl, still⟩
    | some value => exact (others value).agrees still
  spares session := by
    have early := first.spares session
    rw [on_bind]
    generalize on run session = outcome at early ⊢
    obtain ⟨_ | value, middle⟩ := outcome
    · exact early
    · exact early.trans ((others value).spares middle)
  ends goesOn session := by
    have early := first.ends goesOn session
    rw [on_bind]
    generalize on run session = outcome at early ⊢
    obtain ⟨_ | value, middle⟩ := outcome
    · exact absurd early Bool.false_ne_true
    · exact (others value).ends goesOn middle

/-- What is read is the same on both buses. -/
theorem disregards_reading (observe : Bus κ → β)
    (same : ∀ {bus other : Bus κ}, bus.Without bystander other → observe other = observe bus)
    (next : β → Run σ ε κ α) (each : ∀ value, Disregards bystander mayHalt (next value)) :
    Disregards bystander mayHalt (bus >>= fun bus => next (observe bus)) where
  agrees {session other} without := by
    rw [on_bind, on_bind, on_bus, on_bus]
    dsimp only
    rw [same without.bus]
    exact (each _).agrees without
  spares session := (each (observe session.bus)).spares session
  ends goesOn session := (each (observe session.bus)).ends goesOn session

/-- An operation of the bus comes to the same on both. -/
theorem disregards_operation {run : Run σ ε κ α}
    (acts : ∀ session : Session σ ε κ, ∃ answer later, on run session = (some answer, later) ∧
      session.bus.Spares bystander later.bus ∧
      ∀ {other}, session.Without bystander other →
        ∃ otherLater, on run other = (some answer, otherLater) ∧
          later.Without bystander otherLater) :
    Disregards bystander mayHalt run where
  agrees {session other} without := by
    obtain ⟨answer, later, goes, -, same⟩ := acts session
    obtain ⟨otherLater, otherGoes, still⟩ := same without
    rw [goes, otherGoes]
    exact ⟨rfl, still⟩
  spares session := by
    obtain ⟨answer, later, goes, spared, -⟩ := acts session
    rw [goes]
    exact spared
  ends _ session := by
    obtain ⟨answer, later, goes, -⟩ := acts session
    rw [goes]
    rfl

theorem disregards_note (activity : Activity ε κ) :
    Disregards bystander mayHalt (note activity : Run σ ε κ Unit) :=
  disregards_operation fun _ =>
    ⟨_, _, rfl, .refl _ _, fun without => ⟨_, rfl, without.bus, without.memory⟩⟩

/-- Whether a handle is taken or given up, there are as many to both buses. -/
theorem disregards_handles {run : Run σ ε κ Bool} (change : Nat → Nat)
    (acts : ∀ session, on run session =
      if 0 < session.bus.handles then
        (some true, { session with
          bus := { session.bus with handles := change session.bus.handles } })
      else (some false, session)) :
    Disregards bystander mayHalt run := by
  refine disregards_operation fun session => ?_
  simp only [acts]
  split
  · rename_i held
    refine ⟨_, _, rfl, ⟨rfl, id⟩, fun without => ?_⟩
    rw [without.bus.handles, if_pos held]
    exact ⟨_, rfl, without.bus.withHandles _, without.memory⟩
  · rename_i unheld
    refine ⟨_, _, rfl, .refl session.bus bystander, fun without => ?_⟩
    rw [without.bus.handles, if_neg unheld]
    exact ⟨_, rfl, without⟩

theorem disregards_retain : Disregards bystander mayHalt (retain : Run σ ε κ Bool) :=
  disregards_handles (· + 1) on_retain

theorem disregards_release : Disregards bystander mayHalt (release : Run σ ε κ Bool) :=
  disregards_handles (· - 1) on_release

theorem disregards_setRunning (change : Nat → Nat) :
    Disregards bystander mayHalt (Dispatch.setRunning change : Run σ ε κ Unit) := by
  refine disregards_operation fun session => ?_
  simp only [Dispatch.on_setRunning]
  refine ⟨_, _, rfl, ⟨rfl, id⟩, fun without => ?_⟩
  rw [without.bus.running]
  exact ⟨_, rfl, without.bus.withRunning _, without.memory⟩

theorem disregards_revoke {subscription : Subscription} (apart : subscription.id ≠ bystander.id) :
    Disregards bystander mayHalt (revoke subscription : Run σ ε κ Bool) := by
  refine disregards_operation fun session => ?_
  simp only [on_revoke]
  cases found : session.bus.revoke? subscription with
  | none =>
    refine ⟨_, _, rfl, .refl session.bus bystander, fun without => ?_⟩
    rw [without.bus.revoke?_eq_none apart found]
    exact ⟨_, rfl, without⟩
  | some result =>
    refine ⟨_, _, rfl, Bus.spares_of_revoke apart found, fun without => ?_⟩
    obtain ⟨left, otherFound, still⟩ := without.bus.of_revoke apart found
    rw [otherFound]
    exact ⟨_, rfl, still, without.memory⟩

end Run

/-! ### The parts of a dispatch -/

/-- The same of a computation of a handler, whatever its event. -/
def DisregardsWith (bystander : Registration κ) (mayHalt : Bool)
    (run : StateT ε (Run σ ε κ) α) : Prop :=
  ∀ event, Run.Disregards bystander mayHalt (run.run event)

namespace Dispatch

open Run

theorem disregards_countInvocation {registration : Registration κ}
    (apart : registration.id ≠ bystander.id) :
    Disregards bystander mayHalt (countInvocation registration : Run σ ε κ Unit) := by
  refine disregards_operation fun session => ?_
  have counted : session.bus.Spares bystander (session.bus.countInvocation registration.id) :=
    Bus.spares_countInvocation apart
  have revoked : Disregards bystander mayHalt
      (Run.revoke registration.subscription : Run σ ε κ Bool) := disregards_revoke apart
  simp only [on_countInvocation]
  split
  · rename_i last
    refine ⟨_, _, rfl, counted.trans (revoked.spares { session with bus := _ }),
      fun without => ?_⟩
    rw [without.bus.standing _ apart, if_pos last]
    exact ⟨_, rfl, (revoked.agrees (without.countInvocation registration.id)).2⟩
  · rename_i further
    refine ⟨_, _, rfl, counted, fun without => ?_⟩
    rw [without.bus.standing _ apart, if_neg further]
    exact ⟨_, rfl, without.countInvocation registration.id⟩

variable {nested : ε → Run σ ε κ (ε × Outcome κ)} {program : Program σ ε κ}
  {registration : Registration κ}

theorem disregards_perform {request : Request σ ε κ} (detached : request.IsDetached mayHalt) :
    Disregards bystander mayHalt (perform nested request) := by
  cases request with
  | memory =>
    refine disregards_operation fun _ => ⟨_, _, rfl, .refl _ _, fun without => ?_⟩
    exact ⟨_, congrArg (fun memory => (some memory, _)) without.memory, without⟩
  | remember memory =>
    exact disregards_operation fun _ =>
      ⟨_, _, rfl, .refl _ _, fun without => ⟨_, rfl, without.bus, rfl⟩⟩
  | retain => exact disregards_retain
  | release => exact disregards_release
  | halt => exact disregards_diverge detached
  | _ => exact detached.elim

theorem disregardsWith_performForHandler {request : HandlerRequest σ ε κ}
    (detached : request.IsDetached mayHalt) :
    DisregardsWith bystander mayHalt (performForHandler nested request) := by
  intro event
  cases request with
  | plain request => exact (disregards_perform detached).bind fun _ => disregards_pure _
  | amend change => exact disregards_pure _
  | redispatch => exact detached.elim

theorem disregards_ask {test : κ} {event : ε}
    (asks : (program.test test event).Asks (Request.IsDetached mayHalt)) (check : Check) :
    Disregards bystander mayHalt (ask program nested registration check test event) := by
  have script : Disregards bystander mayHalt
      ((program.test test event).run (perform nested)) :=
    Script.run_of_asks (Disregards bystander mayHalt) disregards_pure Disregards.bind
      (fun _ => disregards_perform) asks
  refine script.bind fun answer => ?_
  exact (disregards_note _).bind fun _ => disregards_pure answer

theorem disregards_askFilters {event : ε} (index : Nat) {filters : List κ}
    (asks : ∀ filter ∈ filters, (program.test filter event).Asks (Request.IsDetached mayHalt)) :
    Disregards bystander mayHalt
      (askFilters program nested registration event index filters) := by
  induction filters generalizing index with
  | nil => exact disregards_pure _
  | cons filter rest ih =>
    obtain ⟨first, others⟩ := List.forall_mem_cons.mp asks
    refine (disregards_ask first _).bind fun answer => ?_
    rcases answer with payload | _ | _
    · exact disregards_pure _
    · exact disregards_pure _
    · exact ih (index + 1) others

theorem disregards_askExpiry (alone : program.LeavesAlone mayHalt registration)
    (apart : registration.id ≠ bystander.id) (event : ε) :
    Disregards bystander mayHalt (askExpiry program nested registration event) := by
  unfold askExpiry
  cases found : registration.subscriber.expireWhen with
  | none => exact disregards_pure _
  | some test =>
    refine (disregards_ask (alone.expiry test found event) .expiry).bind fun answer => ?_
    rcases answer with payload | _ | _
    · exact disregards_pure _
    · exact disregards_pure _
    · exact (disregards_revoke apart).bind fun _ => disregards_pure _

theorem disregards_admission (alone : program.LeavesAlone mayHalt registration)
    (apart : registration.id ≠ bystander.id) (event : ε) :
    Disregards bystander mayHalt (admission program nested registration event) := by
  refine (disregards_askFilters 0 fun filter member => alone.filters filter member event).bind
    fun answer => ?_
  rcases answer with payload | _ | _
  · exact disregards_pure _
  · exact disregards_pure _
  · exact disregards_askExpiry alone apart event

theorem disregards_handle (alone : program.LeavesAlone mayHalt registration) (event : ε) :
    Disregards bystander mayHalt (handle program nested registration event) := by
  have script : DisregardsWith bystander mayHalt
      ((program.handle registration.subscriber.handler registration.subscription event).run
        (performForHandler nested)) :=
    Script.run_of_asks (DisregardsWith bystander mayHalt) (fun _ _ => disregards_pure _)
      (fun first others event => (first event).bind fun result => others result.1 result.2)
      (fun _ => disregardsWith_performForHandler) (alone.handler event)
  exact (disregards_note _).bind fun _ => script event

theorem disregards_deliver (alone : program.LeavesAlone mayHalt registration)
    (apart : registration.id ≠ bystander.id) (event : ε) :
    Disregards bystander mayHalt (deliver program nested registration event) := by
  refine (disregards_admission alone apart event).bind fun answer => ?_
  rcases answer with payload | _ | _ | _
  · exact disregards_pure _
  · refine (disregards_handle alone event).bind fun ⟨result, event⟩ => ?_
    rcases result with payload | report | _
    · exact disregards_pure _
    · exact disregards_pure _
    · exact (disregards_countInvocation apart).bind fun _ => disregards_pure _
  · exact disregards_pure _
  · exact disregards_pure _

variable [Event ε]

theorem disregards_offer (alone : program.LeavesAlone mayHalt registration)
    (apart : registration.id ≠ bystander.id) (event : ε) :
    Disregards bystander mayHalt (offer program nested registration event) := by
  unfold offer
  refine disregards_reading (fun bus => (bus.standing registration.id).live)
    (fun without => congrArg Standing.live (without.standing _ apart))
    (fun live => if !live then pure (.gone, event)
      else if Event.isCancelled event && !registration.subscriber.acceptsCancelled then
        pure (.cancelled, event)
      else deliver program nested registration event) fun live => ?_
  split
  · exact disregards_pure _
  split
  · exact disregards_pure _
  · exact disregards_deliver alone apart event

theorem disregards_turns (eventType : EventType) {receivers : List (Registration κ)}
    (each : ∀ registration ∈ receivers,
      program.LeavesAlone mayHalt registration ∧ registration.id ≠ bystander.id) (event : ε) :
    Disregards bystander mayHalt (turns program nested eventType receivers event) := by
  induction receivers generalizing event with
  | nil => exact disregards_pure _
  | cons registration rest ih =>
    obtain ⟨⟨alone, apart⟩, others⟩ := List.forall_mem_cons.mp each
    unfold turns turn
    rw [bind_assoc]
    refine (disregards_offer alone apart event).bind fun offered => ?_
    dsimp only
    rw [bind_assoc]
    refine (disregards_note _).bind fun _ => ?_
    rw [pure_bind]
    exact (ih others offered.2).bind fun _ => disregards_pure _

/-- What follows on the list of receivers, when the bystander is not among them. -/
theorem dispatchWith_cases (program : Program σ ε κ) (nested : ε → Run σ ε κ (ε × Outcome κ))
    (event : ε) (bystander : Registration κ) (mayHalt : Bool) :
    ∃ next, dispatchWith program nested event = receivers (Event.eventType event) >>= next ∧
      ∀ receivers, (∀ registration ∈ receivers,
        program.LeavesAlone mayHalt registration ∧ registration.id ≠ bystander.id) →
        Disregards bystander mayHalt (next receivers) := by
  refine ⟨_, rfl, fun receivers each => ?_⟩
  split
  · exact disregards_pure _
  · refine (disregards_setRunning _).bind fun _ => (disregards_note _).bind fun _ => ?_
    refine (disregards_turns _ each event).bind fun result => ?_
    exact (disregards_setRunning _).bind fun _ => disregards_pure _

end Dispatch

namespace Session

variable {session other : Session σ ε κ}

/-- A session in which a registration has been revoked is one without it. -/
theorem without_revoked (sound : session.bus.Sound) {later : Bus κ}
    (found : session.bus.revoke? bystander.subscription = some (bystander, later)) :
    session.Without bystander (Run.on (Run.revoke bystander.subscription) session).2 := by
  have loses := sound.loses_revoked found
  rw [Run.on_revoke, found]
  refine ⟨⟨loses.hierarchy, loses.handles, loses.running, fun eventType => ?_,
    fun id different => ?_⟩, rfl⟩
  · refine (loses.setOf eventType).trans (List.filter_congr fun registration _ => ?_)
    rw [Bool.eq_iff_iff, Bool.not_eq_true', decide_eq_true_iff, decide_eq_false_iff_not]
    exact Iff.rfl
  · exact (Bus.standing_revoked found id).trans (if_neg different)

/-- **A registration that does not receive an event has no part in its dispatch.** As long as the
code of the registrations leaves the bus alone, the dispatch has the same event and the same outcome
on a bus without it, whatever receivers are known on either, and so have all other registrations the
same standing afterwards; the registration itself stays as it was. If no code halts, the dispatch
comes to an end. -/
theorem unaffected_by_bystander [Event ε] {hierarchy : Hierarchy} {memory : σ}
    (reached : Reached hierarchy memory session) (undisturbed : session.Undisturbed)
    (program : Program σ ε κ)
    (alone : ∀ registration ∈ session.bus.registrations,
      program.LeavesAlone mayHalt registration)
    (member : bystander ∈ session.bus.registrations)
    (without : session.Without bystander other) (coherent : other.bus.Coherent)
    (depth : Nat) (event : ε)
    (unrelated :
      session.bus.hierarchy.isAssignable bystander.eventType (Event.eventType event) = false) :
    let outcome := Run.on (Dispatch.dispatch program (depth + 1) event) session
    let otherOutcome := Run.on (Dispatch.dispatch program (depth + 1) event) other
    otherOutcome.1 = outcome.1 ∧ (mayHalt = false → outcome.1.isSome = true) ∧
      outcome.2.Without bystander otherOutcome.2 ∧
      outcome.2.bus.standing bystander.id = session.bus.standing bystander.id ∧
      bystander ∈ outcome.2.bus.registrations := by
  have upToDate : session.bus.Coherent :=
    coherent_of_steps reached.steps undisturbed (Bus.coherent_start hierarchy)
  obtain ⟨eventType, stored⟩ := Bus.mem_registrations.mp member
  obtain rfl := upToDate.typed stored
  have apart : bystander.eventType ∉ session.bus.hierarchy.lineage (Event.eventType event) :=
    mt Hierarchy.isAssignable_iff.mpr (Bool.eq_false_iff.mp unrelated)
  have each : ∀ registration ∈ (session.bus.receivers (Event.eventType event)).list,
      program.LeavesAlone mayHalt registration ∧ registration.id ≠ bystander.id := by
    intro registration among
    obtain ⟨ancestor, above, present⟩ := Bus.mem_receivers upToDate among
    have different := (without.bus.setOf_of_unrelated upToDate.toSound stored apart above).1
    exact ⟨alone registration (Bus.mem_registrations.mpr ⟨ancestor, present⟩),
      different registration present⟩
  -- once both have their list of receivers, the same computation follows
  obtain ⟨next, split, others⟩ := Dispatch.dispatchWith_cases program
    (Dispatch.dispatch program depth) event bystander mayHalt
  have disregards := others _ each
  have goes (start : Session σ ε κ) :
      Run.on (Dispatch.dispatch program (depth + 1) event) start =
        Run.on (next (start.bus.receivers (Event.eventType event)).list)
          (start.collected (Event.eventType event)) := by
    unfold Dispatch.dispatch
    rw [split, Run.on_bind, Run.on_receivers]
    rfl
  dsimp only
  rw [goes session, goes other, without.bus.receivers_eq upToDate coherent stored apart]
  obtain ⟨same, still⟩ := disregards.agrees (without.collected (Event.eventType event))
  have spared := (session.bus.spares_receivers bystander (Event.eventType event)).trans
    (disregards.spares (session.collected (Event.eventType event)))
  exact ⟨same, fun goesOn => disregards.ends goesOn _, still, spared.standing,
    Bus.mem_registrations.mpr ⟨_, spared.mem_setOf stored⟩⟩

end Session

end

/-! ### A registration for another type -/

namespace Aside

/-- What the code does. -/
inductive Deed where
  /-- It counts in the shared memory. -/
  | count
  /-- As a predicate, it holds when four have been counted. -/
  | isFull

def program : Program Nat Signal Deed where
  test _ _ := .ask .memory fun counted => .done (decide (4 ≤ counted))
  handle _ _ _ := .ask (.plain .memory) fun counted =>
    .ask (.plain (.remember (counted + 1))) fun _ => .done (.ok ())

/-- Two subscribers are to be invoked twice at most, and the one for the left type ends when four
have been counted. -/
def subscribers : List (Subscriber Deed) :=
  let plain : Subscriber Deed := .ofHandler .count
  [{ plain with eventType := some ⟨"root"⟩, limit := some ⟨2, Nat.two_pos⟩ },
    { plain with eventType := some ⟨"left"⟩, expireWhen := some .isFull },
    { plain with eventType := some ⟨"right"⟩, limit := some ⟨2, Nat.two_pos⟩ },
    { plain with eventType := some ⟨"leaf"⟩ }]

/-- All subscribe, then an event is dispatched to them. -/
def script : List (Subscriber Deed) → Script (Request Nat Signal Deed) Request.Answer Unit
  | subscriber :: rest => .ask (.subscribe subscriber) fun _ => script rest
  | [] => .ask (.dispatch { eventType := ⟨"leaf"⟩ }) fun _ => .done ()

def session : Session Nat Signal Deed :=
  (Session.play program 1 Diamond.hierarchy 0 (script subscribers)).2

/-- The third of the registrations. -/
def bystander : Registration Deed :=
  ⟨3, ⟨"right"⟩, { Subscriber.ofHandler .count with
    eventType := some ⟨"right"⟩, limit := some ⟨2, Nat.two_pos⟩ }⟩

/-- The session after the bystander has been revoked. -/
def other : Session Nat Signal Deed :=
  (Run.on (Run.revoke bystander.subscription) session).2

theorem leavesAlone (registration : Registration Deed) :
    program.LeavesAlone false registration where
  filters _ _ _ := ⟨trivial, fun _ => trivial⟩
  expiry _ _ _ := ⟨trivial, fun _ => trivial⟩
  handler _ := ⟨trivial, fun _ => ⟨trivial, fun _ => trivial⟩⟩

/-- What comes of a further event. -/
def served (session : Session Nat Signal Deed) :
    Option (Signal × Outcome Deed) × Session Nat Signal Deed :=
  Run.on (Dispatch.dispatch program 1 { eventType := ⟨"left"⟩ }) session

/-- One subscriber is invoked for the last time, the other one ends; so it is without the bystander,
though the one bus knows receivers and the other knows none. The bystander has an invocation left
before and after. -/
theorem dispatch_aside :
    session.bus.cache.keys = [⟨"leaf"⟩] ∧ other.bus.cache.keys = [] ∧
      ((served session).1.map fun dispatched => dispatched.2.turns.map Turn.verdict) =
        some [.invoked, .expired] ∧
      (served other).1 = (served session).1 ∧
      (served session).2.Without bystander (served other).2 ∧
      (served session).2.bus.standing bystander.id = { live := true, remaining := some 1 } ∧
      bystander ∈ (served session).2.bus.registrations := by
  obtain ⟨calm, known, unknown, unrelated, left_over⟩ : session.Undisturbed ∧
      session.bus.cache.keys = [⟨"leaf"⟩] ∧ other.bus.cache.keys = [] ∧
      session.bus.hierarchy.isAssignable ⟨"right"⟩ ⟨"left"⟩ = false ∧
      session.bus.standing bystander.id = { live := true, remaining := some 1 } :=
    of_decide_eq_true (by cbv)
  have verdicts : ((served session).1.map fun dispatched =>
      dispatched.2.turns.map Turn.verdict) = some [.invoked, .expired] := by cbv
  have reached : Session.Reached Diamond.hierarchy 0 session :=
    ⟨program, 1, script subscribers, rfl⟩
  have coherent : session.bus.Coherent :=
    Session.coherent_of_steps reached.steps calm (Bus.coherent_start _)
  have stored : session.bus.setOf ⟨"right"⟩ = [bystander] := by cbv
  have member : bystander ∈ session.bus.registrations :=
    Bus.mem_registrations.mpr ⟨⟨"right"⟩, stored ▸ List.mem_cons_self⟩
  have present : session.bus.find? bystander.subscription = some bystander := by cbv
  obtain ⟨left, found⟩ := Bus.exists_revoke?_of_find? present
  have other_coherent : other.bus.Coherent := by
    unfold other
    rw [Run.on_revoke, found]
    exact coherent.of_revoke found
  obtain ⟨same, -, without, unchanged, remains⟩ :=
    Session.unaffected_by_bystander reached calm program
      (fun registration _ => leavesAlone registration) member
      (Session.without_revoked coherent.toSound found) other_coherent 0
      { eventType := ⟨"left"⟩ } unrelated
  exact ⟨known, unknown, verdicts, same, without, unchanged.trans left_over, remains⟩

end Aside

end ExtensionHost
