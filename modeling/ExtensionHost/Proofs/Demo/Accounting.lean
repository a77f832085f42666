/-
**A demonstration accounts for every listener and for every event.**

* `Demo.handled`: the events that a listener with a limit handles, of all that reach it.
* `Demo.invocations`: the events for which a registration was invoked, in order.
* `invocations_allForeseen`: what is foretold of one registration.
* `accounts_of_loadOrder`: a valid manifest with a load order makes a complete demonstration, in
  which every listener is registered once and handles the first events that reach it.
-/

import ExtensionHost.Proofs.Bus.Limits
import ExtensionHost.Proofs.Demo.Rounds

namespace ExtensionHost

namespace Demo

variable {hierarchy : Hierarchy} {registrations : List (Registration ExtensionId)}
  {registration : Registration ExtensionId} {earlier : List EventType} {eventType : EventType}

/-! ### Invocations -/

/-- The events for which the registration with this number was invoked in a dispatch. -/
def Round.invocations (round : Round) (id : Nat) : List EventType :=
  (round.outcome.turns.filter (·.invokes id)).map fun _ => round.eventType

/-- The events for which the registration with this number was invoked, in order. -/
def invocations (rounds : List Round) (id : Nat) : List EventType :=
  rounds.flatMap (·.invocations id)

/-- The events that are handled, of those that reach a listener; zero sets no limit. -/
def handled (expireAfter : Option Nat) (reaching : List EventType) : List EventType :=
  match expireAfter with
  | none | some 0 => reaching
  | some (count + 1) => reaching.take (count + 1)

/-- A registration is invoked at most once in a dispatch. -/
theorem invocations_foreseen
    (ascending : registrations.Pairwise fun first second => first.id < second.id)
    (listed : registration ∈ registrations) :
    (foreseen hierarchy registrations earlier eventType).invocations registration.id =
      if hears hierarchy earlier eventType registration then [eventType] else [] := by
  have reached := @id_mem_audience _ _ eventType hierarchy earlier ascending listed
  have once := (@nodup_audience registrations hierarchy ascending earlier eventType).count
    (a := registration.id)
  rw [List.count_eq_countP, List.countP_map] at once
  have invokes : (fun turn : Turn ExtensionId => turn.invokes registration.id) ∘ invocation =
      (· == registration.id) ∘ Registration.id := by
    funext other
    show decide (other.id = registration.id) = (other.id == registration.id)
    rw [beq_eq_decide]
  unfold Round.invocations foreseen
  dsimp only
  rw [List.map_const', List.filter_map, List.length_map, ← List.countP_eq_length_filter, invokes,
    once]
  by_cases hears : hears hierarchy earlier eventType registration = true
  · rw [if_pos (reached.mpr hears), if_pos hears]
    rfl
  · rw [if_neg (mt reached.mp hears), if_neg hears]
    rfl

/-- The events for which a registration with this limit is invoked, of those that reach it. -/
def withinLimit (limit : Option Nat) (reaching : List EventType) : List EventType :=
  match limit with
  | none => reaching
  | some count => reaching.take count

theorem withinLimit_cons (limit : Option Limit) (used : Nat) (eventType : EventType)
    (rest : List EventType) :
    withinLimit (limit.map (·.val - used)) (eventType :: rest) =
      (if limit.all (used < ·.val) then [eventType] else []) ++
        withinLimit (limit.map (·.val - (used + 1))) rest := by
  cases limit with
  | none => rfl
  | some limit =>
    have next : limit.val - (used + 1) = limit.val - used - 1 := (Nat.sub_sub _ _ _).symm
    rw [Option.map_some, Option.map_some, Option.all_some, next]
    unfold withinLimit
    by_cases left : used < limit.val
    · rw [if_pos (decide_eq_true left)]
      exact List.take_cons (Nat.sub_pos_of_lt left)
    · rw [if_neg (mt of_decide_eq_true left), Nat.sub_eq_zero_of_le (Nat.le_of_not_lt left)]
      rfl

/-- Of the events that reach it, a registration is invoked for as many as the earlier ones have left
of its limit. -/
theorem invocations_allForeseen
    (ascending : registrations.Pairwise fun first second => first.id < second.id)
    (listed : registration ∈ registrations) (earlier types : List EventType) :
    invocations (allForeseen hierarchy registrations earlier types) registration.id =
      withinLimit (registration.subscriber.limit.map
          (·.val - heard hierarchy earlier registration.eventType))
        (types.filter (registration.eventType ∈ hierarchy.lineage ·)) := by
  induction types generalizing earlier with
  | nil => cases registration.subscriber.limit <;> simp [invocations, allForeseen, withinLimit]
  | cons eventType rest ih =>
    have first := @invocations_foreseen hierarchy _ _ earlier eventType ascending listed
    have all : invocations (allForeseen hierarchy registrations earlier (eventType :: rest))
        registration.id =
          (foreseen hierarchy registrations earlier eventType).invocations registration.id ++
            invocations (allForeseen hierarchy registrations (earlier ++ [eventType]) rest)
              registration.id := List.flatMap_cons
    rw [all, first, ih, heard_concat]
    unfold hears
    by_cases above : registration.eventType ∈ hierarchy.lineage eventType
    · rw [List.filter_cons, if_pos (decide_eq_true above), withinLimit_cons, if_pos above,
        decide_eq_true above, Bool.true_and]
    · rw [List.filter_cons, if_neg (mt of_decide_eq_true above), if_neg above,
        decide_eq_false above, Bool.false_and]
      rfl

/-- What the limit of a listener makes of the events that reach it. -/
theorem withinLimit_eq_handled {listening : Listening} (enrols : Enrols listening registration)
    (reaching : List EventType) :
    withinLimit (registration.subscriber.limit.map Subtype.val) reaching =
      handled listening.listener.expireAfter reaching := by
  have limit : registration.subscriber.limit =
      listening.listener.expireAfter.bind Limit.ofNat? := by
    rw [← Except.ok.inj enrols.subscriber]
    rfl
  rw [limit]
  rcases listening.listener.expireAfter with _ | _ | count <;> rfl

/-- **A demonstration accounts for every listener and for every event.** A valid manifest with a load
order makes a complete demonstration. Every listener of every extension is registered once. One event
of each declared type is dispatched, in order, to all that are registered for its lineage, and none of
them is passed over or fails. Over the whole demonstration, a listener handles the first events that
reach it, up to its limit. -/
theorem accounts_of_loadOrder {path : String} {content : FileContent} {manifest : Manifest}
    {order : List ExtensionId} {registry : Registry}
    (loaded : Manifest.loadValid path content = .ok manifest)
    (ordered : manifest.loadOrder.value = .ok (order, registry)) :
    ∃ report hierarchy,
      CommandLine.conclude path content = some (.completed manifest report) ∧
      (∀ elapsed, (CommandLine.Ending.transcript path elapsed (.completed manifest report)).exitCode =
          0 ∧
        (CommandLine.Ending.transcript path elapsed (.completed manifest report)).complaints = []) ∧
      manifest.hierarchy = .ok hierarchy ∧
      report.setup.order = order ∧
      (∀ id ∈ order, ∃ extension, manifest.find? id = some extension) ∧
      report.setup.listenings.Perm (manifest.extensions.flatMap listenings) ∧
      report.setup.bus.registrations = report.setup.registrations ∧
      report.rounds.map Round.eventType = manifest.eventTypes.map Declaration.eventType ∧
      (∀ round ∈ report.rounds, round.outcome.invoked = round.subscriberCount ∧
        round.outcome.skipped = 0 ∧ round.outcome.errors = []) ∧
      List.Forall₂ (fun listening registration =>
          Enrols listening registration ∧
          invocations report.rounds registration.id =
            handled listening.listener.expireAfter
              ((manifest.eventTypes.map Declaration.eventType).filter
                (listening.listener.eventType ∈ hierarchy.lineage ·)))
        report.setup.listenings report.setup.registrations := by
  have runs := run_of_valid (Manifest.validate_of_loadValid loaded)
  rw [ordered] at runs
  obtain ⟨report, ran, rfl, ready, shown⟩ := runs
  rw [ready.types_eq] at shown
  have clean : ∀ round ∈ report.rounds, round.outcome.invoked = round.subscriberCount ∧
      round.outcome.skipped = 0 ∧ round.outcome.errors = [] := by
    intro round member
    rw [shown] at member
    obtain ⟨earlier, eventType, rfl⟩ := exists_of_mem_allForeseen member
    exact outcome_foreseen _ _ earlier eventType
  refine ⟨report, report.setup.bus.hierarchy, conclude_eq_completed_iff.mpr ⟨loaded, ran⟩,
    fun elapsed => ⟨rfl, ?_⟩, ready.hierarchy, rfl,
    fun id => ready.arranges.exists_find? ready.faultless.once, ?_, ?_, ?_, clean, ?_⟩
  · refine List.flatMap_eq_nil_iff.mpr fun round member => ?_
    unfold CommandLine.failureLines
    rw [(clean round member).2.2, List.map_nil]
  · rw [ready.listenings]
    exact (ready.arranges.perm ready.faultless.once).flatMap_right _
  · refine ready.keeps.registrations_eq fun registration listed => ?_
    rw [ready.unused registration listed]
    exact Standing.remaining_initial_ne registration.subscriber
  · rw [shown, map_eventType_allForeseen]
  · refine List.forall₂_iff_zip.mpr ⟨ready.enrolled.length_eq, fun pair => ?_⟩
    have enrols := List.forall₂_zip ready.enrolled pair
    have listed := (List.of_mem_zip pair).2
    refine ⟨enrols, ?_⟩
    rw [shown, invocations_allForeseen ready.keeps.ascending listed, ← withinLimit_eq_handled enrols,
      ← enrols.eventType]
    rfl

/-- The core is loaded before the plugin, which is listed first, and nothing goes wrong. -/
theorem accounts_sample :
    Manifest.loadValid "sample.yaml" (.ok Sample.text.toUTF8) = .ok Sample.manifest ∧
      Sample.manifest.loadOrder.value = .ok (Sample.order, Sample.registry) ∧
      ∃ report, CommandLine.conclude "sample.yaml" (.ok Sample.text.toUTF8) =
          some (.completed Sample.manifest report) ∧
        report.setup.order = [⟨"core"⟩, ⟨"plugin"⟩] ∧
        report.rounds.map Round.eventType = [⟨"base"⟩, ⟨"part"⟩] ∧
        ∀ round ∈ report.rounds, round.outcome.invoked = round.subscriberCount := by
  obtain ⟨report, _, completed, -, -, order, -, -, -, types, clean, -⟩ :=
    accounts_of_loadOrder (Sample.loaded "sample.yaml") Sample.ordered
  exact ⟨Sample.loaded _, Sample.ordered, report, completed, order, types,
    fun round member => (clean round member).1⟩

end Demo

end ExtensionHost
