/-
**An answer tells what a request has put on record.**

* `Session.Enrols`: a registration is made, under the next number.
* `Session.Records`: what a request has done to the journal, by its answer. A request that was
  refused has left the session as it was.
* `Dispatch.records_perform`: so it is for every request of any code, whenever the bus is sound.
-/

import ExtensionHost.Proofs.Bus.Frames

namespace ExtensionHost

variable {σ ε κ α : Type}

namespace Session

/-- A subscriber was registered for an event type: its handle has the next number. -/
structure Enrols (session later : Session σ ε κ) (eventType : EventType)
    (subscriber : Subscriber κ) (subscription : Subscription) : Prop where
  handle : subscription = ⟨eventType, session.bus.nextId⟩
  nextId : later.bus.nextId = session.bus.nextId + 1
  journal : later.journal = session.journal ++
    session.entries [.subscribed ⟨subscription.id, eventType, subscriber⟩]

/-- What a request has put on record, by its answer. Only a dispatch goes its own way; of the other
requests none adds to the journal unless it is answered with a handle, with `true`, with a positive
number or with a panic. -/
def Records (session later : Session σ ε κ) : (request : Request σ ε κ) → request.Answer → Prop
  | .subscribe subscriber, some (.ok subscription) =>
    ∃ eventType, subscriber.eventType = some eventType ∧
      session.Enrols later eventType subscriber subscription
  | .subscribeTo eventType subscriber, some (.ok subscription) =>
    session.Enrols later eventType subscriber subscription
  | .revoke subscription, true =>
    ∃ registration : Registration κ, registration.subscription = subscription ∧
      later.journal = session.journal ++ session.entries [.revoked registration]
  | .unsubscribeIf _ _, some (.ok (count + 1)) =>
    ∃ removed : List (Registration κ), removed.length = count + 1 ∧
      later.journal = session.journal ++
        session.entries (removed.map .removed ++ [.swept (count + 1)])
  | .unsubscribeIf _ _, some (.error payload) =>
    ∃ removed : List (Registration κ), later.journal = session.journal ++
      session.entries (removed.map .removed ++ [.interrupted payload])
  | .dispatch _, some _ => True
  | .subscribe _, _ | .subscribeTo _ _, _ | .revoke _, _ | .unsubscribeIf _ _, _
  | .dispatch _, none => later = session
  | .memory, _ | .remember _, _ | .isActive _, _ | .isSubscribed _, _ | .subscriberCount _, _
  | .retain, _ | .release, _ | .halt, _ => later.journal = session.journal

theorem records_subscribeTo {session later : Session σ ε κ} {eventType : EventType}
    {subscriber : Subscriber κ} {answer : Except ConfigurationError Subscription}
    (performed : Run.on (Run.subscribeTo eventType subscriber) session = (some answer, later)) :
    session.Records later (.subscribeTo eventType subscriber) (some answer) := by
  rw [Run.on_subscribeTo, Run.on_enrol] at performed
  rcases session.bus.subscribeTo_cases eventType subscriber with ⟨bus, accepted⟩ | ⟨-, refused⟩
  · rw [accepted] at performed
    cases performed
    obtain ⟨-, gains⟩ := Bus.gains_of_subscribeTo accepted
    refine ⟨rfl, gains.nextId, ?_⟩
    unfold entries
    rw [← gains.running]
    rfl
  · rw [refused] at performed
    cases performed
    rfl

theorem records_subscribe {session later : Session σ ε κ} {subscriber : Subscriber κ}
    {answer : Except ConfigurationError Subscription}
    (performed : Run.on (Run.subscribe subscriber) session = (some answer, later)) :
    session.Records later (.subscribe subscriber) (some answer) := by
  cases typed : subscriber.eventType with
  | none =>
    rw [Run.on_subscribe, Bus.subscribe, typed] at performed
    cases performed
    rfl
  | some eventType =>
    rw [Run.on_subscribe, Bus.subscribe, typed] at performed
    have records := records_subscribeTo performed
    cases answer with
    | error _ => exact records
    | ok subscription => exact ⟨eventType, typed, records⟩

theorem records_revoke {session later : Session σ ε κ} (sound : session.bus.Sound)
    {subscription : Subscription} {answer : Bool}
    (performed : Run.on (Run.revoke subscription) session = (some answer, later)) :
    session.Records later (.revoke subscription) answer := by
  rw [Run.on_revoke] at performed
  cases found : session.bus.revoke? subscription with
  | none =>
    rw [found] at performed
    cases performed
    rfl
  | some result =>
    rw [found] at performed
    cases performed
    obtain ⟨present, same⟩ := Bus.revoke?_eq_some found
    obtain ⟨stored, same_id⟩ := Bus.mem_of_find? present
    refine ⟨result.1, ?_, ?_⟩
    · unfold Registration.subscription
      rw [sound.typed stored, same_id]
    · unfold entries
      rw [same]
      rfl

theorem records_unsubscribeIf {session later : Session σ ε κ} {selector : Bus.Selector κ}
    {order : Bus.SetOrder}
    {answer : Except Payload Nat}
    (performed : Run.on (Run.unsubscribeIf selector order) session = (some answer, later)) :
    session.Records later (.unsubscribeIf selector order) (some answer) := by
  rw [Run.on_unsubscribeIf] at performed
  have running : (session.bus.sweep selector order).bus.running = session.bus.running :=
    (session.bus.loses_sweep selector order).running
  have nothing : (session.bus.sweep selector order).removed = [] →
      (session.bus.sweep selector order).bus = session.bus := Bus.sweep_bus_of_nil
  generalize session.bus.sweep selector order = sweep at performed running nothing
  have journal : ∀ activities : List (Activity ε κ),
      (Session.record { session with bus := sweep.bus } activities).journal =
        session.journal ++ session.entries activities := by
    intro activities
    unfold entries
    rw [← running]
    rfl
  rcases sweep with ⟨removed, _ | payload, bus⟩
  · cases removed with
    | nil =>
      cases performed
      have kept : bus = session.bus := nothing rfl
      rw [kept]
      exact session.record_nil
    | cons first rest =>
      cases performed
      exact ⟨first :: rest, rfl, journal _⟩
  · cases performed
    exact ⟨removed, journal _⟩

end Session

/-- Nothing is done without a handle. -/
theorem Run.withHandle_cases {action : Run σ ε κ α} {answer : Option α}
    {session later : Session σ ε κ}
    (performed : on (withHandle action) session = (some answer, later)) :
    answer = none ∧ later = session ∨
      ∃ value, answer = some value ∧ on action session = (some value, later) := by
  unfold withHandle at performed
  rw [on_bind, on_bus] at performed
  dsimp only at performed
  split at performed
  · rw [on_bind] at performed
    generalize on action session = outcome at performed
    rcases outcome with ⟨_ | value, middle⟩
    · cases performed
    · cases performed
      exact .inr ⟨value, rfl, rfl⟩
  · cases performed
    exact .inl ⟨rfl, rfl⟩

/-- **Every answer tells the truth about the journal.** -/
theorem Dispatch.records_perform {nested : ε → Run σ ε κ (ε × Outcome κ)}
    {session later : Session σ ε κ} (sound : session.bus.Sound) (request : Request σ ε κ)
    (answer : request.Answer)
    (performed : Run.on (perform nested request) session = (some answer, later)) :
    session.Records later request answer := by
  cases request with
  | memory | remember | isActive =>
    cases performed
    rfl
  | halt => cases performed
  | subscribe subscriber =>
    rcases Run.withHandle_cases performed with ⟨rfl, rfl⟩ | ⟨value, rfl, made⟩
    · rfl
    · exact Session.records_subscribe made
  | subscribeTo eventType subscriber =>
    rcases Run.withHandle_cases performed with ⟨rfl, rfl⟩ | ⟨value, rfl, made⟩
    · rfl
    · exact Session.records_subscribeTo made
  | revoke subscription => exact Session.records_revoke sound performed
  | unsubscribeIf selector order =>
    rcases Run.withHandle_cases performed with ⟨rfl, rfl⟩ | ⟨value, rfl, swept⟩
    · rfl
    · exact Session.records_unsubscribeIf swept
  | dispatch event =>
    rcases Run.withHandle_cases performed with ⟨rfl, rfl⟩ | ⟨value, rfl, -⟩
    · rfl
    · trivial
  | isSubscribed eventType | subscriberCount eventType =>
    rcases Run.withHandle_cases performed with ⟨-, rfl⟩ | ⟨value, -, asked⟩
    · rfl
    · cases asked
      rfl
  | retain =>
    replace performed := (Run.on_retain session).symm.trans performed
    split at performed <;> cases performed <;> rfl
  | release =>
    replace performed := (Run.on_release session).symm.trans performed
    split at performed <;> cases performed <;> rfl

end ExtensionHost
