/-
**What stands before the first dispatch of a demonstration.**

* `Manifest.DependsOn`: the dependencies of the extensions of a manifest, as a relation.
* `Manifest.Arranges`: all extensions, each once and after those it depends on; a load order does
  that (`arranges_of_loadOrder`).
* `enrolAll_eq`: listeners to declared types are all registered, each once and in order.
* `Setup.Ready`: everything is there that a manifest lists, and no invocation has been counted.
* `prepare_of_valid`: with a load order, what a valid manifest lists is made ready without fail.
-/

import ExtensionHost.CommandLine
import ExtensionHost.Proofs.Bus.Serving
import ExtensionHost.Proofs.Extension.Stability
import ExtensionHost.Proofs.Manifest.Validation

namespace ExtensionHost

theorem FileContent.text_toUTF8 (text : String) : FileContent.text (.ok text.toUTF8) = .ok text := by
  have read : String.fromUTF8? text.toUTF8 = some text := dif_pos text.isValidUTF8
  unfold FileContent.text
  dsimp only [bind, Except.bind]
  rw [read]
  rfl

namespace Manifest

/-! ### Manifests in files -/

theorem loadValid_of_ofText? {text : String} {manifest : Manifest}
    (parsed : ofText? text = some manifest) (valid : manifest.validate = .ok ()) (path : String) :
    loadValid path (.ok text.toUTF8) = .ok manifest := by
  unfold loadValid load
  rw [FileContent.text_toUTF8]
  dsimp only [bind, Except.bind, Except.mapError]
  rw [parsed]
  dsimp only [bind, Except.bind, pure, Except.pure]
  rw [valid]

theorem validate_of_loadValid {path : String} {content : FileContent} {manifest : Manifest}
    (loaded : loadValid path content = .ok manifest) : manifest.validate = .ok () := by
  unfold loadValid at loaded
  cases read : load path content with
  | error error =>
    rw [read] at loaded
    cases loaded
  | ok found =>
    replace loaded : (found.validate.mapError ManifestError.invalid >>= fun _ => pure found) =
      .ok manifest := by rwa [read] at loaded
    cases checked : found.validate with
    | error error =>
      rw [checked] at loaded
      cases loaded
    | ok _ =>
      rw [checked] at loaded
      cases loaded
      exact checked

/-! ### The load order of a manifest -/

/-- One extension declares a dependency on another, which is required or is declared anyway. -/
def DependsOn (manifest : Manifest) (source target : ExtensionId) : Prop :=
  ∃ extension ∈ manifest.extensions, extension.id = source ∧
    ∃ dependency ∈ extension.dependencies, dependency.target = target ∧
      (dependency.kind = .required ∨ target ∈ manifest.extensions.map ExtensionEntry.id)

/-- All extensions are listed, each once and after those it depends on. -/
structure Arranges (manifest : Manifest) (order : List ExtensionId) : Prop where
  nodup : order.Nodup
  mem_iff : ∀ id, id ∈ order ↔ id ∈ manifest.extensions.map ExtensionEntry.id
  precedes : ∀ source target, manifest.DependsOn source target → Precedes order target source

variable {manifest : Manifest} {order : List ExtensionId} {registry : Registry}

theorem loadOrder_value (manifest : Manifest) :
    manifest.loadOrder.value = (Registry.ofDeclarations manifest.declarations).loadOrder.value := by
  unfold loadOrder Logged.andThen
  rw [manifest.registry_value]

theorem map_fst_declarations (manifest : Manifest) :
    manifest.declarations.map Prod.fst = manifest.extensions.map ExtensionEntry.id := by
  unfold declarations
  rw [List.map_map]
  rfl

theorem mem_ids_iff (manifest : Manifest) (id : ExtensionId) :
    id ∈ (Registry.ofDeclarations manifest.declarations).ids ↔
      id ∈ manifest.extensions.map ExtensionEntry.id := by
  rw [Registry.ids_ofDeclarations, List.mem_eraseDups, map_fst_declarations]

theorem mem_declared (once : (manifest.extensions.map ExtensionEntry.id).Nodup)
    {extension : ExtensionEntry} (member : extension ∈ manifest.extensions)
    {dependency : Dependency} (declares : dependency ∈ extension.dependencies) :
    (extension.id, dependency) ∈ (Registry.ofDeclarations manifest.declarations).declared := by
  unfold Registry.declared
  rw [Registry.entries_ofDeclarations (manifest.map_fst_declarations ▸ once)]
  refine List.mem_flatMap.mpr ⟨_, List.mem_map_of_mem member, ?_⟩
  exact List.mem_map_of_mem declares

theorem arranges_of_loadOrder (once : (manifest.extensions.map ExtensionEntry.id).Nodup)
    (succeeded : manifest.loadOrder.value = .ok (order, registry)) : manifest.Arranges order := by
  rw [loadOrder_value] at succeeded
  have complete := Registry.complete_of_loadOrder succeeded
  have resolved := Registry.loadOrder_of_complete
    (Registry.isSealed_ofDeclarations manifest.declarations) complete
  rw [succeeded] at resolved
  obtain ⟨nodup, members, sorted⟩ := resolved
  refine ⟨nodup, fun id => (members id).trans (manifest.mem_ids_iff id), ?_⟩
  rintro source target ⟨extension, member, rfl, dependency, declares, rfl, resolves⟩
  have declared := mem_declared once member declares
  refine sorted _ _ ⟨dependency, declared, rfl, ?_⟩
  rcases resolves with required | present
  · exact Decidable.not_not.mp fun absent => complete _ declared ⟨required, absent⟩
  · exact (manifest.mem_ids_iff _).mpr present

/-! ### The extensions in load order -/

theorem id_of_find? {id : ExtensionId} {extension : ExtensionEntry}
    (found : manifest.find? id = some extension) : extension.id = id := by
  simpa using List.find?_some found

theorem find?_eq_some (once : (manifest.extensions.map ExtensionEntry.id).Nodup)
    {extension : ExtensionEntry} (member : extension ∈ manifest.extensions) :
    manifest.find? extension.id = some extension := by
  have present : (manifest.find? extension.id).isSome = true := by
    unfold find?
    rw [List.find?_isSome]
    exact ⟨extension, member, decide_eq_true rfl⟩
  obtain ⟨found, is⟩ := Option.isSome_iff_exists.mp present
  rw [is, List.inj_on_of_nodup_map once (List.mem_of_find?_eq_some is) member (id_of_find? is)]

theorem Arranges.exists_find? (arranges : manifest.Arranges order)
    (once : (manifest.extensions.map ExtensionEntry.id).Nodup) {id : ExtensionId}
    (member : id ∈ order) : ∃ extension, manifest.find? id = some extension := by
  obtain ⟨extension, listed, rfl⟩ := List.mem_map.mp ((arranges.mem_iff id).mp member)
  exact ⟨extension, find?_eq_some once listed⟩

/-- Every extension is found once. -/
theorem Arranges.perm (arranges : manifest.Arranges order)
    (once : (manifest.extensions.map ExtensionEntry.id).Nodup) :
    (order.filterMap manifest.find?).Perm manifest.extensions := by
  have all : (manifest.extensions.map ExtensionEntry.id).filterMap manifest.find? =
      manifest.extensions := by
    rw [List.filterMap_map]
    refine Eq.trans (List.filterMap_congr fun extension member => ?_) List.filterMap_some
    exact find?_eq_some once member
  have same : order.Perm (manifest.extensions.map ExtensionEntry.id) :=
    (List.perm_ext_iff_of_nodup arranges.nodup once).mpr arranges.mem_iff
  rw [← all]
  exact same.filterMap _

end Manifest

namespace Demo

/-! ### Registering listeners -/

/-- The registration of a listener: its event type and its subscriber. -/
structure Enrols (listening : Listening) (registration : Registration ExtensionId) : Prop where
  eventType : registration.eventType = listening.listener.eventType
  subscriber : listening.subscriber = .ok registration.subscriber

/-- No invocation of these registrations has been counted. -/
def IsUnused (bus : Bus ExtensionId) (registrations : List (Registration ExtensionId)) : Prop :=
  ∀ registration ∈ registrations,
    (bus.standing registration.id).remaining = registration.subscriber.limit.map Subtype.val

variable {bus : Bus ExtensionId} {held : List (Registration ExtensionId)}

/-- A listener's registration is made by its event type. -/
theorem exists_enlisted (listening : Listening) :
    ∃ subscriber, listening.subscriber = .ok subscriber ∧ ∀ bus : Bus ExtensionId,
      enrol bus listening = bus.subscribeTo listening.listener.eventType subscriber :=
  ⟨_, rfl, fun _ => rfl⟩

theorem Enrols.isPlain {listening : Listening} {registration : Registration ExtensionId}
    (enrols : Enrols listening registration) : registration.subscriber.IsPlain := by
  rw [← Except.ok.inj enrols.subscriber]
  exact ⟨rfl, rfl⟩

theorem exists_listening {listenings : List Listening}
    {registrations : List (Registration ExtensionId)}
    (each : List.Forall₂ Enrols listenings registrations)
    {registration : Registration ExtensionId} (member : registration ∈ registrations) :
    ∃ listening ∈ listenings, Enrols listening registration := by
  induction each with
  | nil => exact absurd member List.not_mem_nil
  | cons enrols _ ih =>
    rcases List.mem_cons.mp member with rfl | later
    · exact ⟨_, List.mem_cons_self, enrols⟩
    · obtain ⟨listening, among, enrols⟩ := ih later
      exact ⟨listening, List.mem_cons_of_mem _ among, enrols⟩

theorem enrol_eq {listening : Listening} (keeps : bus.Keeps held) (unused : IsUnused bus held)
    (declared : bus.hierarchy.contains listening.listener.eventType = true) :
    ∃ registration later, enrol bus listening = .ok (registration, later) ∧
      Enrols listening registration ∧ later.hierarchy = bus.hierarchy ∧
      later.Keeps (held ++ [registration]) ∧ IsUnused later (held ++ [registration]) := by
  obtain ⟨subscriber, built, enrolled⟩ := exists_enlisted listening
  rcases bus.subscribeTo_cases listening.listener.eventType subscriber with
    ⟨later, accepted⟩ | ⟨undeclared, -⟩
  · obtain ⟨-, gains⟩ := Bus.gains_of_subscribeTo accepted
    refine ⟨_, later, (enrolled bus).trans accepted, ⟨rfl, built⟩, gains.hierarchy,
      keeps.of_gains gains, fun registration member => ?_⟩
    rw [gains.standing]
    rcases List.mem_append.mp member with old | new
    · have before := Nat.ne_of_lt (keeps.given registration old)
      rw [← gains.id_eq] at before
      rw [if_neg before]
      exact unused registration old
    · rw [List.mem_singleton.mp new, if_pos rfl]
      rfl
  · exact absurd declared (Bool.eq_false_iff.mp undeclared)

theorem enrolAll_eq (listenings : List Listening) (keeps : bus.Keeps held)
    (unused : IsUnused bus held)
    (declared : ∀ listening ∈ listenings,
      bus.hierarchy.contains listening.listener.eventType = true) :
    ∃ registrations later, enrolAll bus listenings = .ok (registrations, later) ∧
      List.Forall₂ Enrols listenings registrations ∧ later.hierarchy = bus.hierarchy ∧
      later.Keeps (held ++ registrations) ∧ IsUnused later (held ++ registrations) := by
  induction listenings generalizing bus held with
  | nil =>
    refine ⟨[], bus, rfl, .nil, rfl, ?_⟩
    rw [List.append_nil]
    exact ⟨keeps, unused⟩
  | cons listening rest ih =>
    obtain ⟨declared, following⟩ := List.forall_mem_cons.mp declared
    obtain ⟨registration, middle, enrolled, enrols, same, kept, fresh⟩ :=
      enrol_eq keeps unused declared
    obtain ⟨registrations, later, all, each, hierarchy, keeps, unused⟩ :=
      ih kept fresh (same ▸ following)
    refine ⟨registration :: registrations, later, ?_, each.cons enrols, hierarchy.trans same, ?_⟩
    · unfold enrolAll
      rw [enrolled]
      show (enrolAll middle rest >>= _) = _
      rw [all]
      rfl
    · rw [List.append_cons]
      exact ⟨keeps, unused⟩

/-! ### What is made ready -/

/-- Everything is there that a manifest lists, and no invocation has been counted. -/
structure Setup.Ready (manifest : Manifest) (setup : Setup) : Prop where
  hierarchy : manifest.hierarchy = .ok setup.bus.hierarchy
  faultless : Manifest.Faultless setup.bus.hierarchy manifest.extensions
  arranges : manifest.Arranges setup.order
  listenings : setup.listenings =
    (setup.order.filterMap manifest.find?).flatMap Demo.listenings
  enrolled : List.Forall₂ Enrols setup.listenings setup.registrations
  keeps : setup.bus.Keeps setup.registrations
  unused : IsUnused setup.bus setup.registrations

theorem prepare_of_valid {manifest : Manifest} (valid : manifest.validate = .ok ()) :
    match manifest.loadOrder.value with
    | .ok (order, _) => ∃ setup, prepare manifest = .ok setup ∧ setup.order = order ∧
      setup.Ready manifest
    | .error error => prepare manifest = .error (.registry error) := by
  unfold prepare
  cases ordered : manifest.loadOrder.value with
  | error error => rfl
  | ok result =>
    obtain ⟨order, registry⟩ := result
    unfold Manifest.validate at valid
    cases built : manifest.hierarchy with
    | error error =>
      rw [built] at valid
      cases valid
    | ok hierarchy =>
      rw [built] at valid
      have faultless := Manifest.checkExtensions_eq_ok_iff.mp valid
      have arranges := Manifest.arranges_of_loadOrder faultless.once ordered
      have declared : ∀ listening ∈ (order.filterMap manifest.find?).flatMap Demo.listenings,
          hierarchy.contains listening.listener.eventType = true := by
        intro listening member
        obtain ⟨extension, found, inside⟩ := List.mem_flatMap.mp member
        obtain ⟨listener, listens, rfl⟩ := List.mem_map.mp inside
        exact faultless.declared extension ((arranges.perm faultless.once).subset found) listener
          listens
      obtain ⟨registrations, bus, enrolled, each, rfl, keeps, unused⟩ :=
        enrolAll_eq _ (Bus.Keeps.start hierarchy) (fun _ none => absurd none List.not_mem_nil)
          declared
      refine ⟨⟨order, _, registrations, bus⟩, ?_, rfl, built, faultless, arranges, rfl, each, keeps,
        unused⟩
      show ((enrolAll _ _).mapError Halt.configuration >>= _) = _
      rw [enrolled]
      rfl

/-! ### A manifest of two extensions -/

namespace Sample

/-- The plugin is listed first and depends on the core, which listens once to the base type. -/
def text : String :=
  "event_types:
- name: base
- name: part
  parents: [base]
extensions:
- id: plugin
  depends_on: [core]
  listens:
  - event: part
  - event: base
- id: core
  listens:
  - event: base
    expire_after: 1
"

/-- What the text says. -/
def manifest : Manifest where
  eventTypes := [{ eventType := ⟨"base"⟩ }, { eventType := ⟨"part"⟩, parents := [⟨"base"⟩] }]
  extensions := [
    { id := ⟨"plugin"⟩
      dependsOn := [.bare ⟨"core"⟩]
      listens := [{ eventType := ⟨"part"⟩ }, { eventType := ⟨"base"⟩ }] },
    { id := ⟨"core"⟩
      listens := [{ eventType := ⟨"base"⟩, expireAfter := some 1 }] }]

/-- The extensions in load order. -/
def order : List ExtensionId :=
  [⟨"core"⟩, ⟨"plugin"⟩]

/-- The registry afterwards. -/
def registry : Registry :=
  { Registry.ofDeclarations manifest.declarations with isSealed := true }

theorem loaded (path : String) : Manifest.loadValid path (.ok text.toUTF8) = .ok manifest := by
  have parsed : Manifest.ofText? text = some manifest := by decide +kernel
  exact Manifest.loadValid_of_ofText? parsed rfl path

theorem ordered : manifest.loadOrder.value = .ok (order, registry) := rfl

end Sample

end Demo

end ExtensionHost
