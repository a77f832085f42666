/-
**Dependencies handle events first.**

* `Setup.registrationsOf`: the registrations of one extension, in order; `Ready.registrationsOf_eq`
  says that they are those of its listeners, as they are listed.
* `Ready.pairwise_handlers`: no extension is registered before one that it depends on.
* `Round.invoked`: the registrations that were invoked in a dispatch, in order.
* `runs_in_order`: priorities, then dependencies, then the order of the listeners decide who runs
  first.
-/

import ExtensionHost.Proofs.Demo.Rounds

namespace ExtensionHost.Demo

open Relation (TransGen)

section

variable {manifest : Manifest} {setup : Setup} {listenings : List Listening}
  {registrations : List (Registration ExtensionId)} {id : ExtensionId}

/-! ### Registrations by extension -/

/-- The registrations of one extension, in order. -/
def Setup.registrationsOf (setup : Setup) (id : ExtensionId) : List (Registration ExtensionId) :=
  setup.registrations.filter (·.subscriber.handler = id)

theorem Enrols.handler_eq {listening : Listening} {registration : Registration ExtensionId}
    (enrols : Enrols listening registration) :
    registration.subscriber.handler = listening.extension := by
  rw [← Except.ok.inj enrols.subscriber]

theorem map_handler (enrolled : List.Forall₂ Enrols listenings registrations) :
    registrations.map (·.subscriber.handler) = listenings.map Listening.extension := by
  induction enrolled with
  | nil => rfl
  | cons enrols _ ih => rw [List.map_cons, List.map_cons, enrols.handler_eq, ih]

theorem filter_listenings (extension : Manifest.ExtensionEntry) (id : ExtensionId) :
    (Demo.listenings extension).filter (·.extension = id) =
      if extension.id = id then Demo.listenings extension else [] := by
  unfold Demo.listenings
  rw [List.filter_map]
  by_cases same : extension.id = id
  · rw [if_pos same]
    exact congrArg _ (List.filter_eq_self.mpr fun _ _ => decide_eq_true same)
  · rw [if_neg same, List.map_eq_nil_iff]
    exact List.filter_eq_nil_iff.mpr fun _ _ => mt of_decide_eq_true same

/-- Among the listeners of all extensions, those of one stand as they are listed. -/
theorem filter_flatMap_listenings {extensions : List Manifest.ExtensionEntry}
    (once : (extensions.map Manifest.ExtensionEntry.id).Nodup)
    {extension : Manifest.ExtensionEntry} (member : extension ∈ extensions) :
    (extensions.flatMap Demo.listenings).filter (·.extension = extension.id) =
      Demo.listenings extension := by
  induction extensions with
  | nil => exact absurd member List.not_mem_nil
  | cons first rest ih =>
    obtain ⟨absent, distinct⟩ := List.nodup_cons.mp once
    rw [List.flatMap_cons, List.filter_append, filter_listenings]
    rcases List.mem_cons.mp member with rfl | later
    · have others : (rest.flatMap Demo.listenings).filter (·.extension = extension.id) = [] := by
        rw [List.filter_flatMap, List.flatMap_eq_nil_iff]
        intro other among
        rw [filter_listenings, if_neg]
        exact fun same => absent (same ▸ List.mem_map_of_mem among)
      rw [if_pos rfl, others, List.append_nil]
    · have other : first.id ≠ extension.id := fun same =>
        absent (same ▸ List.mem_map_of_mem later)
      rw [if_neg other, List.nil_append, ih distinct later]

/-- The registrations of an extension are those of its listeners, as they are listed. -/
theorem Setup.Ready.enrolled_of (ready : setup.Ready manifest)
    {extension : Manifest.ExtensionEntry} (member : extension ∈ manifest.extensions) :
    List.Forall₂ (fun listener registration => Enrols ⟨extension.id, listener⟩ registration)
      extension.listens (setup.registrationsOf extension.id) := by
  have found := ready.arranges.perm ready.faultless.once
  have once := (found.map Manifest.ExtensionEntry.id).nodup_iff.mpr ready.faultless.once
  have own := filter_flatMap_listenings once (found.symm.subset member)
  rw [← ready.listenings] at own
  have kept : List.Forall₂ Enrols (setup.listenings.filter (·.extension = extension.id))
      (setup.registrationsOf extension.id) := by
    refine List.rel_filter (fun listening registration enrols => ?_) ready.enrolled
    show decide (listening.extension = extension.id) = true ↔ _
    rw [← enrols.handler_eq]
  rw [own] at kept
  exact List.forall₂_map_left_iff.mp kept

/-! ### The order of registration -/

theorem Setup.Ready.pairwise_handlers (ready : setup.Ready manifest) :
    setup.registrations.Pairwise fun first second =>
      ¬ TransGen manifest.DependsOn first.subscriber.handler second.subscriber.handler := by
  have sorted := pairwise_not_transGen ready.arranges.nodup ready.arranges.precedes
  have acyclic := not_circular_of_precedes ready.arranges.nodup ready.arranges.precedes
  have listed : setup.listenings.Pairwise fun first second =>
      ¬ TransGen manifest.DependsOn first.extension second.extension := by
    rw [ready.listenings, List.pairwise_flatMap, List.pairwise_filterMap]
    constructor
    · intro extension _
      unfold Demo.listenings
      exact List.pairwise_map.mpr (List.pairwise_of_forall fun _ _ circle => acyclic ⟨_, circle⟩)
    · refine sorted.imp fun apart extension found other present first member second among => ?_
      obtain ⟨_, -, rfl⟩ := List.mem_map.mp member
      obtain ⟨_, -, rfl⟩ := List.mem_map.mp among
      rw [Manifest.id_of_find? found, Manifest.id_of_find? present]
      exact apart
  have handlers : (setup.registrations.map (·.subscriber.handler)).Pairwise fun first second =>
      ¬ TransGen manifest.DependsOn first second := by
    rw [map_handler ready.enrolled]
    exact List.pairwise_map.mpr listed
  exact List.pairwise_map.mp handlers

/-! ### The order of invocation -/

/-- The registrations that were invoked in a dispatch, in order. -/
def Round.invoked (round : Round) : List (Registration ExtensionId) :=
  (round.outcome.turns.filter (·.verdict = .invoked)).map Turn.registration

theorem invoked_foreseen (hierarchy : Hierarchy)
    (registrations : List (Registration ExtensionId)) (earlier : List EventType)
    (eventType : EventType) :
    (foreseen hierarchy registrations earlier eventType).invoked =
      audience hierarchy registrations earlier eventType := by
  unfold Round.invoked foreseen
  dsimp only
  rw [List.filter_map, List.map_map]
  refine (List.map_congr_left fun _ _ => rfl).trans ((List.map_id _).trans ?_)
  exact List.filter_eq_self.mpr fun _ _ => rfl

theorem runsStrictlyBefore_audience (hierarchy : Hierarchy)
    (ascending : registrations.Pairwise fun first second => first.id < second.id)
    (earlier : List EventType) (eventType : EventType) :
    (audience hierarchy registrations earlier eventType).Pairwise
      Registration.RunsStrictlyBefore :=
  Registration.runsStrictlyBefore_byPriority (ascending.filter _)

/-- What was registered first runs first, where the priorities are equal. -/
theorem precedes_of_id_lt {receivers : List (Registration ExtensionId)}
    (ordered : receivers.Pairwise Registration.RunsStrictlyBefore)
    {first second : Registration ExtensionId} (member : first ∈ receivers)
    (present : second ∈ receivers) (level : first.priority = second.priority)
    (lower : first.id < second.id) : Precedes receivers first second := by
  refine Precedes.of_pairwise ordered member present ?_ ?_
  · exact fun same => Nat.ne_of_lt lower (congrArg _ same)
  · rintro (earlier | ⟨-, higher⟩)
    · rw [level] at earlier
      exact Nat.lt_irrefl second.priority.rank earlier
    · exact Nat.lt_asymm lower higher

/-- What an extension depends on was registered before it. -/
theorem Setup.Ready.id_lt_of_dependsOn (ready : setup.Ready manifest)
    {first second : Registration ExtensionId} (member : first ∈ setup.registrations)
    (present : second ∈ setup.registrations)
    (depends : TransGen manifest.DependsOn second.subscriber.handler first.subscriber.handler) :
    first.id < second.id := by
  rcases Nat.lt_trichotomy first.id second.id with lower | same | higher
  · exact lower
  · obtain rfl := Registration.eq_of_id ready.keeps.ascending member present same
    exact absurd ⟨_, depends⟩
      (not_circular_of_precedes ready.arranges.nodup ready.arranges.precedes)
  · have before : Precedes setup.registrations second first :=
      Precedes.of_pairwise ready.keeps.ascending present member
        (fun same => Nat.ne_of_gt higher (congrArg _ same.symm)) (Nat.lt_asymm higher)
    exact absurd depends (List.pairwise_iff_forall_sublist.mp ready.pairwise_handlers before)

/-- **Dependencies handle events first.** In a complete demonstration one event of each declared type
is dispatched, and the handlers that are invoked run in the order of their priorities. Where these are
equal, those of an extension run after those of every extension that it depends on, directly or not,
and the handlers of one extension run in the order of its listeners. -/
theorem runs_in_order {path : String} {content : FileContent} {report : Report}
    (completed : CommandLine.conclude path content = some (.completed manifest report)) :
    report.rounds.map Round.eventType = manifest.eventTypes.map Declaration.eventType ∧
    (∀ extension ∈ manifest.extensions,
      List.Forall₂ (fun listener registration => Enrols ⟨extension.id, listener⟩ registration)
        extension.listens (report.setup.registrationsOf extension.id)) ∧
    ∀ round ∈ report.rounds,
      round.calls = round.invoked.map (callOf round.eventType) ∧
      round.invoked ⊆ report.setup.registrations ∧
      round.invoked.Nodup ∧
      round.invoked.Pairwise (fun first second => first.priority ≤ second.priority) ∧
      ∀ first ∈ round.invoked, ∀ second ∈ round.invoked,
        first.priority = second.priority →
          (TransGen manifest.DependsOn second.subscriber.handler first.subscriber.handler →
            Precedes round.invoked first second) ∧
          ∀ id, Precedes (report.setup.registrationsOf id) first second →
            Precedes round.invoked first second := by
  obtain ⟨ready, shown⟩ := shows_of_completed completed
  refine ⟨?_, fun extension => ready.enrolled_of, fun round member => ?_⟩
  · rw [shown, map_eventType_allForeseen, ready.types_eq]
  · rw [shown] at member
    obtain ⟨earlier, eventType, rfl⟩ := exists_of_mem_allForeseen member
    have ordered := runsStrictlyBefore_audience report.setup.bus.hierarchy ready.keeps.ascending
      earlier eventType
    rw [invoked_foreseen]
    refine ⟨rfl, fun registration among => (mem_audience.mp among).1, ?_, ?_, ?_⟩
    · refine ordered.imp fun before same => ?_
      subst same
      exact irrefl _ before
    · exact ordered.imp fun before => before.elim Nat.le_of_lt fun level =>
        Nat.le_of_eq (congrArg Priority.rank level.1)
    · intro first member second present level
      refine ⟨fun depends => ?_, fun id before => ?_⟩
      · have lower := ready.id_lt_of_dependsOn (mem_audience.mp member).1
          (mem_audience.mp present).1 depends
        exact precedes_of_id_lt ordered member present level lower
      · have own := ready.keeps.ascending.filter (·.subscriber.handler = id)
        have lower := List.pairwise_iff_forall_sublist.mp own before
        exact precedes_of_id_lt ordered member present level lower

end

namespace Sample

theorem exists_report : ((run manifest).bind Except.toOption).isSome = true := by cbv

/-- What the demonstration shows. -/
def report : Report :=
  ((run manifest).bind Except.toOption).get exists_report

theorem completed (path : String) :
    CommandLine.conclude path (.ok text.toUTF8) = some (.completed manifest report) := by
  have shown : (run manifest).bind Except.toOption = some report :=
    (Option.some_get exists_report).symm
  obtain ⟨ending, ran, same⟩ := Option.bind_eq_some_iff.mp shown
  cases ending with
  | error halt => cases same
  | ok _ =>
    obtain rfl := Option.some.inj same
    exact conclude_eq_completed_iff.mpr ⟨loaded path, ran⟩

/-- The core runs before the plugin, which is listed first. -/
theorem core_precedes_plugin :
    CommandLine.conclude "sample.yaml" (.ok text.toUTF8) = some (.completed manifest report) ∧
      report.rounds.map Round.calls = [
        [⟨⟨"core"⟩, ⟨"base"⟩⟩, ⟨⟨"plugin"⟩, ⟨"base"⟩⟩],
        [⟨⟨"plugin"⟩, ⟨"part"⟩⟩, ⟨⟨"plugin"⟩, ⟨"part"⟩⟩]] ∧
      ∀ round ∈ report.rounds, ∀ first ∈ round.invoked, ∀ second ∈ round.invoked,
        first.subscriber.handler = ⟨"core"⟩ → second.subscriber.handler = ⟨"plugin"⟩ →
          first.priority = second.priority → Precedes round.invoked first second := by
  obtain ⟨-, -, orders⟩ := runs_in_order (completed "sample.yaml")
  refine ⟨completed _, by cbv, fun round shown first member second present core plugin level => ?_⟩
  obtain ⟨-, -, -, -, precedes⟩ := orders round shown
  refine (precedes first member second present level).1 (.single ?_)
  rw [core, plugin]
  exact ⟨_, List.mem_cons_self, rfl, { target := ⟨"core"⟩ }, List.mem_cons_self, rfl, .inl rfl⟩

end Sample

end ExtensionHost.Demo
