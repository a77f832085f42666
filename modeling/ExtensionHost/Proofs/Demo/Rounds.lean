/-
**The dispatches of a demonstration, foretold from the registrations alone.**

* `Demo.Serves`: between two sessions these receivers were invoked, each once, and nothing else
  happened on the bus.
* `on_turns`: a dispatch invokes every receiver.
* `heard`, `audience`: how many events have reached a registration, and who is reached by the next.
* `Demo.Stands`: of each limit is left what the events so far have not used up.
* `on_round`, `rounds_eq`: what one dispatch shows, and what all of them show.
-/

import ExtensionHost.Proofs.Demo.Enrolment
import ExtensionHost.Proofs.Event.Declarations
import Mathlib.Data.List.Lattice

namespace ExtensionHost.Demo

variable {nested : Signal → Run (List Call) Signal ExtensionId (Signal × Outcome ExtensionId)}
  {registrations receivers : List (Registration ExtensionId)}
  {registration : Registration ExtensionId} {eventType : EventType}
  {session middle later : Session (List Call) Signal ExtensionId}

/-! ### Turns -/

/-- The call of the handler of a registration. -/
def callOf (eventType : EventType) (registration : Registration ExtensionId) : Call where
  extension := registration.subscriber.handler
  eventType

/-- The turn of a receiver that is invoked. -/
def invocation (registration : Registration ExtensionId) : Turn ExtensionId where
  registration
  verdict := .invoked

/-- These receivers were invoked one after the other, and nothing else happened on the bus. -/
structure Serves (registrations : List (Registration ExtensionId)) (eventType : EventType)
    (receivers : List (Registration ExtensionId))
    (session later : Session (List Call) Signal ExtensionId) : Prop where
  memory : later.memory = session.memory ++ receivers.map (callOf eventType)
  keeps : later.bus.Keeps registrations
  spends : session.bus.Spends (receivers.map Registration.id) later.bus

theorem on_handle (registration : Registration ExtensionId) (eventType : EventType)
    (session : Session (List Call) Signal ExtensionId) :
    ∃ later, Run.on (Dispatch.handle program nested registration { eventType }) session =
        (some (.ok (.ok ()), { eventType }), later) ∧
      later.bus = session.bus ∧
      later.memory = session.memory ++ [callOf eventType registration] :=
  ⟨_, rfl, rfl, rfl⟩

/-- A receiver that is on the bus is invoked. -/
theorem on_turn (keeps : session.bus.Keeps registrations)
    (plain : registration.subscriber.IsPlain)
    (present : registration ∈ session.bus.setOf registration.eventType) :
    ∃ later, Run.on (Dispatch.turn program nested eventType registration { eventType }) session =
        (some (invocation registration, { eventType }), later) ∧
      Serves registrations eventType [registration] session later := by
  obtain ⟨middle, handled, bus, memory⟩ := @on_handle nested registration eventType session
  have live := keeps.toSound.isLive_of_mem present
  rw [← bus] at keeps present
  obtain ⟨later, counts, same, kept, spends⟩ := keeps.of_countInvocation present
  refine ⟨later.record [.settled eventType (invocation registration)], ?_, ?_, kept, bus ▸ spends⟩
  · unfold Dispatch.turn
    rw [Run.on_bind, Dispatch.on_offer_of_plain plain live rfl handled counts]
    rfl
  · exact same.trans memory

/-- All receivers that are on the bus are invoked. -/
theorem on_turns (keeps : session.bus.Keeps registrations)
    (plain : ∀ registration ∈ registrations, registration.subscriber.IsPlain)
    (present : ∀ registration ∈ receivers,
      registration ∈ session.bus.setOf registration.eventType)
    (apart : (receivers.map Registration.id).Nodup) :
    ∃ later, Run.on (Dispatch.turns program nested eventType receivers { eventType }) session =
        (some (receivers.map invocation, { eventType }), later) ∧
      Serves registrations eventType receivers session later := by
  induction receivers generalizing session with
  | nil =>
    refine ⟨session, rfl, (List.append_nil _).symm, keeps, .of_eq rfl fun _ => rfl⟩
  | cons first rest ih =>
    obtain ⟨here, others⟩ := List.forall_mem_cons.mp present
    obtain ⟨absent, distinct⟩ := List.nodup_cons.mp apart
    have once : ([first].map Registration.id).Disjoint (rest.map Registration.id) :=
      List.singleton_disjoint.mpr absent
    obtain ⟨middle, invoked, memory, kept, spends⟩ :=
      @on_turn nested _ _ eventType _ keeps (plain first (keeps.mem_iff.mp here).1) here
    have remain : ∀ registration ∈ rest,
        registration ∈ middle.bus.setOf registration.eventType := by
      intro registration member
      obtain ⟨listed, -, left⟩ := keeps.mem_iff.mp (others registration member)
      have other := once.symm (List.mem_map_of_mem member)
      refine kept.mem_iff.mpr ⟨listed, rfl, ?_⟩
      rw [spends.remaining, if_neg other]
      exact left
    obtain ⟨later, all, remembers, keeps, spent⟩ := ih kept remain distinct
    refine ⟨later, ?_, ?_, keeps, spends.trans spent once⟩
    · unfold Dispatch.turns
      rw [Run.on_bind, invoked]
      dsimp only
      rw [Run.on_bind, all]
      rfl
    · rw [remembers, memory, List.append_assoc]
      rfl

/-! ### Who is reached -/

/-- How many events of these types go to the registrations for a type. -/
def heard (hierarchy : Hierarchy) (types : List EventType) (registered : EventType) : Nat :=
  types.countP fun concrete => registered ∈ hierarchy.lineage concrete

/-- Whether a registration is invoked for an event that follows those of the earlier types. -/
def hears (hierarchy : Hierarchy) (earlier : List EventType) (eventType : EventType)
    (registration : Registration ExtensionId) : Bool :=
  registration.eventType ∈ hierarchy.lineage eventType &&
    registration.subscriber.limit.all fun limit =>
      heard hierarchy earlier registration.eventType < limit.val

/-- The registrations that are invoked, in running order. -/
def audience (hierarchy : Hierarchy) (registrations : List (Registration ExtensionId))
    (earlier : List EventType) (eventType : EventType) : List (Registration ExtensionId) :=
  Registration.byPriority (registrations.filter (hears hierarchy earlier eventType))

/-- Of each limit is left what the events so far have not used up. -/
structure Stands (hierarchy : Hierarchy) (registrations : List (Registration ExtensionId))
    (earlier : List EventType) (bus : Bus ExtensionId) : Prop where
  under : bus.hierarchy = hierarchy
  keeps : bus.Keeps registrations
  remaining : ∀ registration ∈ registrations, (bus.standing registration.id).remaining =
    registration.subscriber.limit.map
      (·.val - heard hierarchy earlier registration.eventType)

variable {hierarchy : Hierarchy} {earlier : List EventType} {bus after : Bus ExtensionId}

theorem heard_concat (hierarchy : Hierarchy) (earlier : List EventType)
    (eventType registered : EventType) :
    heard hierarchy (earlier ++ [eventType]) registered =
      heard hierarchy earlier registered +
        if registered ∈ hierarchy.lineage eventType then 1 else 0 := by
  unfold heard
  rw [List.countP_append, List.countP_singleton]
  simp

theorem mem_audience : registration ∈ audience hierarchy registrations earlier eventType ↔
    registration ∈ registrations ∧ hears hierarchy earlier eventType registration = true := by
  unfold audience
  rw [List.mem_mergeSort, List.mem_filter]

theorem nodup_audience
    (ascending : registrations.Pairwise fun first second => first.id < second.id)
    (earlier : List EventType) (eventType : EventType) :
    ((audience hierarchy registrations earlier eventType).map Registration.id).Nodup :=
  ((List.mergeSort_perm _ _).map _).nodup_iff.mpr (Registration.nodup_ids (ascending.filter _))

theorem id_mem_audience
    (ascending : registrations.Pairwise fun first second => first.id < second.id)
    (listed : registration ∈ registrations) :
    registration.id ∈ (audience hierarchy registrations earlier eventType).map Registration.id ↔
      hears hierarchy earlier eventType registration = true := by
  rw [List.mem_map]
  constructor
  · rintro ⟨other, member, same⟩
    obtain ⟨among, hears⟩ := mem_audience.mp member
    rwa [← Registration.eq_of_id ascending among listed same]
  · exact fun hears => ⟨registration, mem_audience.mpr ⟨listed, hears⟩, rfl⟩

namespace Stands

theorem hears_iff (stands : Stands hierarchy registrations earlier bus)
    (listed : registration ∈ registrations) (eventType : EventType) :
    hears hierarchy earlier eventType registration = true ↔
      registration.eventType ∈ hierarchy.lineage eventType ∧
        (bus.standing registration.id).remaining ≠ some 0 := by
  unfold hears
  rw [stands.remaining registration listed, Bool.and_eq_true, decide_eq_true_iff]
  refine and_congr_right fun _ => ?_
  cases registration.subscriber.limit with
  | none => simp
  | some limit => simp [Nat.sub_eq_zero_iff_le]

theorem receivers_eq (stands : Stands hierarchy registrations earlier bus)
    (declared : hierarchy.contains eventType = true) :
    (bus.receivers eventType).list = audience hierarchy registrations earlier eventType := by
  have lists := stands.keeps.toCoherent.lists_receivers (stands.under ▸ declared)
  have ordered := Registration.runsStrictlyBefore_byPriority
    (stands.keeps.ascending.filter (hears hierarchy earlier eventType))
  refine lists.increasing.eq_of_mem_iff ordered fun registration => ?_
  show _ ↔ registration ∈ audience hierarchy registrations earlier eventType
  rw [lists.mem_iff, mem_audience, stands.under]
  constructor
  · rintro ⟨ancestor, above, stored⟩
    obtain ⟨listed, rfl, left⟩ := stands.keeps.mem_iff.mp stored
    exact ⟨listed, (stands.hears_iff listed eventType).mpr ⟨above, left⟩⟩
  · rintro ⟨listed, hears⟩
    obtain ⟨above, left⟩ := (stands.hears_iff listed eventType).mp hears
    exact ⟨registration.eventType, above, stands.keeps.mem_iff.mpr ⟨listed, rfl, left⟩⟩

theorem present_of_mem (stands : Stands hierarchy registrations earlier bus)
    (member : registration ∈ audience hierarchy registrations earlier eventType) :
    registration ∈ bus.setOf registration.eventType := by
  obtain ⟨listed, hears⟩ := mem_audience.mp member
  obtain ⟨-, left⟩ := (stands.hears_iff listed eventType).mp hears
  exact stands.keeps.mem_iff.mpr ⟨listed, rfl, left⟩

/-- Nothing is used up. -/
theorem of_eq (stands : Stands hierarchy registrations earlier bus)
    (keeps : after.Keeps registrations) (hierarchy_eq : after.hierarchy = bus.hierarchy)
    (standing : ∀ id, after.standing id = bus.standing id) :
    Stands hierarchy registrations earlier after where
  under := hierarchy_eq.trans stands.under
  keeps := keeps
  remaining registration listed := by
    rw [standing]
    exact stands.remaining registration listed

/-- One event uses up one invocation of each receiver, and of others nothing is left to use up. -/
theorem after_event (stands : Stands hierarchy registrations earlier bus) (eventType : EventType)
    (keeps : after.Keeps registrations)
    (spends : bus.Spends
      ((audience hierarchy registrations earlier eventType).map Registration.id) after) :
    Stands hierarchy registrations (earlier ++ [eventType]) after where
  under := spends.hierarchy.trans stands.under
  keeps := keeps
  remaining registration listed := by
    have reached := @id_mem_audience _ _ eventType hierarchy earlier stands.keeps.ascending listed
    have before := stands.remaining registration listed
    rw [spends.remaining, heard_concat, before]
    by_cases hears : hears hierarchy earlier eventType registration = true
    · have above := ((stands.hears_iff listed eventType).mp hears).1
      rw [if_pos (reached.mpr hears), if_pos above, Option.map_map]
      rfl
    · rw [if_neg (mt reached.mp hears)]
      split
      · rename_i above
        have spent : (bus.standing registration.id).remaining = some 0 :=
          Decidable.not_not.mp fun left =>
            hears ((stands.hears_iff listed eventType).mpr ⟨above, left⟩)
        rw [before] at spent
        obtain ⟨limit, is, zero⟩ := Option.map_eq_some_iff.mp spent
        rw [is, Option.map_some, Option.map_some, zero, ← Nat.sub_sub, zero]
      · rfl

end Stands

/-! ### Rounds -/

/-- What the dispatch of an event shows that follows those of the earlier types. -/
def foreseen (hierarchy : Hierarchy) (registrations : List (Registration ExtensionId))
    (earlier : List EventType) (eventType : EventType) : Round where
  eventType
  subscriberCount := (audience hierarchy registrations earlier eventType).length
  calls := (audience hierarchy registrations earlier eventType).map (callOf eventType)
  outcome := {
    eventType
    turns := (audience hierarchy registrations earlier eventType).map invocation }

/-- What the dispatches of events of these types show that follow those of the earlier types. -/
def allForeseen (hierarchy : Hierarchy) (registrations : List (Registration ExtensionId)) :
    (earlier : List EventType) → List EventType → List Round
  | _, [] => []
  | earlier, eventType :: rest =>
    foreseen hierarchy registrations earlier eventType ::
      allForeseen hierarchy registrations (earlier ++ [eventType]) rest

/-- A dispatch invokes whom the earlier events have left something. -/
theorem on_dispatch (stands : Stands hierarchy registrations earlier session.bus)
    (plain : ∀ registration ∈ registrations, registration.subscriber.IsPlain)
    (declared : hierarchy.contains eventType = true) :
    ∃ later, Run.on (Dispatch.dispatch program 1 { eventType }) session =
        (some ({ eventType }, (foreseen hierarchy registrations earlier eventType).outcome),
          later) ∧
      later.memory = session.memory ++
        (foreseen hierarchy registrations earlier eventType).calls ∧
      Stands hierarchy registrations (earlier ++ [eventType]) later.bus := by
  have receivers : (session.bus.receivers (Event.eventType ({ eventType } : Signal))).list =
      audience hierarchy registrations earlier eventType := stands.receivers_eq declared
  have ready (running : Nat) : Stands hierarchy registrations earlier
      { (session.bus.receivers eventType).bus with running } := by
    have kept := (stands.keeps.of_receivers eventType).run running
    obtain ⟨cache, same⟩ := session.bus.receivers_bus eventType
    rw [same] at kept ⊢
    exact stands.of_eq kept rfl fun _ => rfl
  unfold foreseen
  by_cases nobody : audience hierarchy registrations earlier eventType = []
  · have idle := ready (session.bus.receivers eventType).bus.running
    unfold Dispatch.dispatch Dispatch.dispatchWith
    rw [Run.on_bind, Run.on_receivers]
    dsimp only
    rw [receivers, nobody]
    refine ⟨_, rfl, (List.append_nil _).symm, idle.after_event eventType idle.keeps ?_⟩
    rw [nobody]
    exact .of_eq rfl fun _ => rfl
  · have begun : Stands hierarchy registrations earlier
        (Dispatch.begun session eventType).bus := ready _
    obtain ⟨later, served, memory, keeps, spends⟩ :=
      @on_turns (Dispatch.dispatch program 0) _ _ eventType (Dispatch.begun session eventType)
        begun.keeps plain
        (fun registration => begun.present_of_mem)
        (nodup_audience begun.keeps.ascending earlier eventType)
    have ended := begun.after_event eventType keeps spends
    rw [← receivers] at served nobody
    refine ⟨later.withRunning (later.bus.running - 1),
      (Dispatch.on_dispatch_of_turns nobody served).trans ?_, memory, ?_⟩
    · rw [receivers]
      rfl
    · exact ended.of_eq (keeps.run _) rfl fun _ => rfl

theorem on_round (stands : Stands hierarchy registrations earlier session.bus)
    (plain : ∀ registration ∈ registrations, registration.subscriber.IsPlain)
    (declared : hierarchy.contains eventType = true) :
    ∃ later, Run.on (round { eventType }) session =
        (some (foreseen hierarchy registrations earlier eventType), later) ∧
      Stands hierarchy registrations (earlier ++ [eventType]) later.bus := by
  obtain ⟨later, dispatched, memory, after⟩ :=
    @on_dispatch _ eventType { session with memory := [] } _ _ stands plain declared
  have count : session.bus.subscriberCount eventType =
      (audience hierarchy registrations earlier eventType).length := by
    have lists := stands.keeps.toCoherent.lists_receivers (stands.under ▸ declared)
    rw [← stands.receivers_eq declared, lists.length_eq stands.keeps.toSound]
  refine ⟨later, ?_, after⟩
  unfold round
  rw [Run.on_bind, Run.on_bus]
  show Run.on (Dispatch.dispatch program 1 { eventType } >>= _)
    { session with memory := [] } = _
  rw [Run.on_bind, dispatched]
  show (some ({ eventType, subscriberCount := _, calls := later.memory, outcome := _ } : Round),
    later) = _
  rw [memory, count]
  rfl

/-- What a sequence of dispatches shows is foretold by the registrations and their limits. -/
theorem on_rounds (types : List EventType)
    (stands : Stands hierarchy registrations earlier session.bus)
    (plain : ∀ registration ∈ registrations, registration.subscriber.IsPlain)
    (declared : ∀ eventType ∈ types, hierarchy.contains eventType = true) :
    ∃ later, Run.on ((types.map fun eventType => ({ eventType } : Signal)).mapM round) session =
      (some (allForeseen hierarchy registrations earlier types), later) := by
  induction types generalizing earlier session with
  | nil => exact ⟨session, rfl⟩
  | cons eventType rest ih =>
    obtain ⟨here, others⟩ := List.forall_mem_cons.mp declared
    obtain ⟨middle, first, after⟩ := on_round stands plain here
    obtain ⟨later, following⟩ := ih after others
    refine ⟨later, ?_⟩
    rw [List.map_cons, List.mapM_cons, Run.on_bind, first]
    dsimp only
    rw [Run.on_bind, following]
    rfl

theorem map_eventType_allForeseen (earlier types : List EventType) :
    (allForeseen hierarchy registrations earlier types).map Round.eventType = types := by
  induction types generalizing earlier with
  | nil => rfl
  | cons eventType rest ih => exact congrArg (eventType :: ·) (ih _)

/-- Each dispatch of the whole sequence is foretold by those before. -/
theorem exists_of_mem_allForeseen {earlier types : List EventType} {round : Round}
    (member : round ∈ allForeseen hierarchy registrations earlier types) :
    ∃ before eventType, round = foreseen hierarchy registrations before eventType := by
  induction types generalizing earlier with
  | nil => exact absurd member List.not_mem_nil
  | cons eventType rest ih =>
    rcases List.mem_cons.mp member with rfl | later
    · exact ⟨earlier, eventType, rfl⟩
    · exact ih later

/-- Every receiver is invoked, none is passed over and none fails. -/
theorem outcome_foreseen (hierarchy : Hierarchy)
    (registrations : List (Registration ExtensionId)) (earlier : List EventType)
    (eventType : EventType) :
    (foreseen hierarchy registrations earlier eventType).outcome.invoked =
        (foreseen hierarchy registrations earlier eventType).subscriberCount ∧
      (foreseen hierarchy registrations earlier eventType).outcome.skipped = 0 ∧
      (foreseen hierarchy registrations earlier eventType).outcome.errors = [] := by
  unfold foreseen Outcome.invoked Outcome.skipped Outcome.errors
  rw [List.countP_map, List.countP_map, List.filterMap_map]
  exact ⟨List.countP_eq_length.mpr fun _ _ => rfl,
    List.countP_eq_zero.mpr fun _ _ => Bool.false_ne_true,
    List.filterMap_eq_nil_iff.mpr fun _ _ => rfl⟩

/-! ### The whole demonstration -/

/-- The dispatches of a demonstration all end, and show what is foretold. -/
theorem Setup.Ready.rounds_eq {manifest : Manifest} {setup : Setup} (ready : setup.Ready manifest) :
    rounds setup.bus (signals setup) =
      some (allForeseen setup.bus.hierarchy setup.registrations [] setup.bus.hierarchy.types) := by
  have stands : Stands setup.bus.hierarchy setup.registrations [] setup.bus :=
    ⟨rfl, ready.keeps, ready.unused⟩
  have plain : ∀ registration ∈ setup.registrations, registration.subscriber.IsPlain := by
    intro registration member
    obtain ⟨listening, -, enrols⟩ := exists_listening ready.enrolled member
    exact enrols.isPlain
  have declared : ∀ eventType ∈ setup.bus.hierarchy.types,
      setup.bus.hierarchy.contains eventType = true :=
    fun eventType member => Table.contains_iff.mpr member
  obtain ⟨later, shown⟩ :=
    @on_rounds _ { bus := setup.bus, memory := [] } _ _ _ stands plain declared
  exact congrArg Prod.fst shown

/-- Everything that the manifest lists was made ready, and the dispatches were as foretold. -/
structure Report.Shows (manifest : Manifest) (report : Report) : Prop where
  ready : report.setup.Ready manifest
  rounds : report.rounds = allForeseen report.setup.bus.hierarchy report.setup.registrations []
    report.setup.bus.hierarchy.types

theorem Setup.Ready.types_eq {manifest : Manifest} {setup : Setup} (ready : setup.Ready manifest) :
    setup.bus.hierarchy.types = manifest.eventTypes.map Declaration.eventType := by
  have built := Hierarchy.build_cases manifest.eventTypes
  have hierarchy : Hierarchy.build manifest.eventTypes = .ok setup.bus.hierarchy := ready.hierarchy
  rw [hierarchy] at built
  exact Hierarchy.keys_of_entries built.2

/-- After the load order nothing can fail. -/
theorem run_of_valid {manifest : Manifest} (valid : manifest.validate = .ok ()) :
    match manifest.loadOrder.value with
    | .ok (order, _) => ∃ report, run manifest = some (.ok report) ∧
      report.setup.order = order ∧ report.Shows manifest
    | .error error => run manifest = some (.error (.registry error)) := by
  have prepared := prepare_of_valid valid
  unfold run
  cases ordered : manifest.loadOrder.value with
  | error error =>
    rw [ordered] at prepared
    replace prepared : prepare manifest = .error (.registry error) := prepared
    rw [prepared]
  | ok result =>
    rw [ordered] at prepared
    obtain ⟨setup, made, same, ready⟩ := prepared
    rw [made]
    dsimp only
    rw [ready.rounds_eq]
    exact ⟨_, rfl, same, ready, rfl⟩

theorem conclude_eq_completed_iff {path : String} {content : FileContent} {manifest : Manifest}
    {report : Report} :
    CommandLine.conclude path content = some (.completed manifest report) ↔
      Manifest.loadValid path content = .ok manifest ∧ run manifest = some (.ok report) := by
  unfold CommandLine.conclude
  cases Manifest.loadValid path content with
  | error error => exact iff_of_false nofun nofun
  | ok found =>
    dsimp only
    rw [Option.map_eq_some_iff]
    constructor
    · rintro ⟨_ | shown, ran, same⟩
      · cases same
      · cases same
        exact ⟨rfl, ran⟩
    · rintro ⟨same, ran⟩
      cases same
      exact ⟨.ok report, ran, rfl⟩

/-- Whatever a complete demonstration shows was foretold. -/
theorem shows_of_completed {path : String} {content : FileContent} {manifest : Manifest}
    {report : Report}
    (completed : CommandLine.conclude path content = some (.completed manifest report)) :
    report.Shows manifest := by
  obtain ⟨loaded, ran⟩ := conclude_eq_completed_iff.mp completed
  have runs := run_of_valid (Manifest.validate_of_loadValid loaded)
  cases ordered : manifest.loadOrder.value with
  | error error =>
    rw [ordered] at runs
    cases runs.symm.trans ran
  | ok result =>
    rw [ordered] at runs
    obtain ⟨other, same, -, shows⟩ := runs
    cases same.symm.trans ran
    exact shows

end ExtensionHost.Demo
