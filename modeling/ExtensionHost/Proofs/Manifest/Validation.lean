/-
**A manifest is valid exactly when everything can be built from it.**

The check looks at the manifest alone, and the parts are built by code that knows nothing of it.

* `Manifest.Faultless`, `Manifest.FirstFault`: extensions with distinct names and declared event
  types, and the first fault of those that are not like that.
* `checkExtensions_of_faultless`, `checkExtensions_of_firstFault`: what the check says to them.
* `registry_value`: the registry holds what the manifest declares.
* `Bus.connect`, `Bus.connectAll`: listeners on a bus, each with a handler of the caller's choice.
* `validate_exact`: the check against hierarchy, registry and bus, and the fault that it reports.
-/

import ExtensionHost.Bus.Basic
import ExtensionHost.Manifest.Basic
import ExtensionHost.Proofs.Bus.Operations
import ExtensionHost.Proofs.Extension.Registration

namespace ExtensionHost

variable {κ : Type}

namespace Manifest

/-! ### Faults -/

/-- No name is used twice, and all listeners are to declared event types. -/
structure Faultless (hierarchy : Hierarchy) (extensions : List ExtensionEntry) : Prop where
  once : (extensions.map ExtensionEntry.id).Nodup
  declared : ∀ extension ∈ extensions, ∀ listener ∈ extension.listens,
    hierarchy.contains listener.eventType = true

/-- The fault of an extension that follows others with these names: its own name comes before its
listeners, and of these the first counts. -/
def ExtensionEntry.Fault (hierarchy : Hierarchy) (names : List ExtensionId)
    (extension : ExtensionEntry) (error : ConfigurationError) : Prop :=
  (extension.id ∈ names ∧ error = .duplicateExtension extension.id) ∨
    (extension.id ∉ names ∧ ∃ before listener after,
      extension.listens = before ++ listener :: after ∧
        hierarchy.contains listener.eventType = false ∧
        (∀ earlier ∈ before, hierarchy.contains earlier.eventType = true) ∧
        error = .undeclaredEventType listener.eventType)

/-- The fault of the first extension that has one. -/
def FirstFault (hierarchy : Hierarchy) (extensions : List ExtensionEntry)
    (error : ConfigurationError) : Prop :=
  ∃ before extension after, extensions = before ++ extension :: after ∧
    Faultless hierarchy before ∧
      extension.Fault hierarchy (before.map ExtensionEntry.id) error

variable {hierarchy : Hierarchy} {extensions : List ExtensionEntry} {extension : ExtensionEntry}
  {error : ConfigurationError} {names : List ExtensionId}

theorem ExtensionEntry.undeclared?_eq_some_iff {listener : ListenerEntry} :
    extension.undeclared? hierarchy = some listener ↔
      ∃ before after, extension.listens = before ++ listener :: after ∧
        hierarchy.contains listener.eventType = false ∧
        ∀ earlier ∈ before, hierarchy.contains earlier.eventType = true := by
  unfold undeclared?
  rw [List.find?_eq_some_iff_append]
  simp only [Bool.not_eq_true', Bool.not_not]
  constructor
  · rintro ⟨undeclared, before, after, split, earlier⟩
    exact ⟨before, after, split, undeclared, earlier⟩
  · rintro ⟨before, after, split, undeclared, earlier⟩
    exact ⟨undeclared, before, after, split, earlier⟩

theorem ExtensionEntry.undeclared?_eq_none_iff :
    extension.undeclared? hierarchy = none ↔
      ∀ listener ∈ extension.listens, hierarchy.contains listener.eventType = true := by
  simp [undeclared?]

theorem Faultless.concat (faultless : Faultless hierarchy extensions)
    (fresh : extension.id ∉ extensions.map ExtensionEntry.id)
    (declared : ∀ listener ∈ extension.listens, hierarchy.contains listener.eventType = true) :
    Faultless hierarchy (extensions ++ [extension]) where
  once := by
    rw [List.map_append, List.nodup_append]
    refine ⟨faultless.once, List.nodup_singleton _, fun id member other last => ?_⟩
    rw [List.mem_singleton.mp last]
    rintro rfl
    exact fresh member
  declared other member := by
    rcases List.mem_append.mp member with old | new
    · exact faultless.declared other old
    · rw [List.mem_singleton.mp new]
      exact declared

/-- Extensions have no fault, or a first one. -/
theorem faultless_or_firstFault (hierarchy : Hierarchy) (extensions : List ExtensionEntry) :
    Faultless hierarchy extensions ∨ ∃ error, FirstFault hierarchy extensions error := by
  induction extensions using List.reverseRecOn with
  | nil => exact .inl ⟨List.nodup_nil, fun _ member => absurd member List.not_mem_nil⟩
  | append_singleton earlier last ih =>
    rcases ih with faultless | ⟨error, before, extension, after, rfl, faultless, fault⟩
    · by_cases known : last.id ∈ earlier.map ExtensionEntry.id
      · exact .inr ⟨_, earlier, last, [], rfl, faultless, .inl ⟨known, rfl⟩⟩
      · cases found : last.undeclared? hierarchy with
        | none =>
          exact .inl (faultless.concat known (ExtensionEntry.undeclared?_eq_none_iff.mp found))
        | some listener =>
          obtain ⟨before, after, split, undeclared, sound⟩ :=
            ExtensionEntry.undeclared?_eq_some_iff.mp found
          exact .inr ⟨_, earlier, last, [], rfl, faultless,
            .inr ⟨known, before, listener, after, split, undeclared, sound, rfl⟩⟩
    · exact .inr ⟨error, before, extension, after ++ [last], by simp, faultless, fault⟩

/-! ### The check -/

/-- Extensions without a fault are passed, and their names are remembered. -/
theorem checkExtensions_append (faultless : Faultless hierarchy extensions)
    (fresh : ∀ id ∈ extensions.map ExtensionEntry.id, id ∉ names) (rest : List ExtensionEntry) :
    checkExtensions hierarchy names (extensions ++ rest) =
      checkExtensions hierarchy ((extensions.map ExtensionEntry.id).reverse ++ names) rest := by
  induction extensions generalizing names with
  | nil => rfl
  | cons extension others ih =>
    obtain ⟨absent, once⟩ := List.nodup_cons.mp faultless.once
    have passed : extension.undeclared? hierarchy = none :=
      ExtensionEntry.undeclared?_eq_none_iff.mpr (faultless.declared _ List.mem_cons_self)
    have following : Faultless hierarchy others :=
      ⟨once, fun other member => faultless.declared other (List.mem_cons_of_mem _ member)⟩
    rw [List.cons_append, checkExtensions, if_neg (fresh _ List.mem_cons_self), passed]
    dsimp only
    rw [ih following]
    · simp
    · intro id member
      rw [List.mem_cons, not_or]
      exact ⟨fun same => absent (same ▸ member), fresh id (List.mem_cons_of_mem _ member)⟩

theorem checkExtensions_of_faultless (faultless : Faultless hierarchy extensions) :
    checkExtensions hierarchy [] extensions = .ok () := by
  have passed := checkExtensions_append faultless (fun _ _ => List.not_mem_nil) []
  rw [List.append_nil] at passed
  rw [passed, checkExtensions]

theorem checkExtensions_of_fault (fault : extension.Fault hierarchy names error)
    (rest : List ExtensionEntry) :
    checkExtensions hierarchy names (extension :: rest) = .error error := by
  rw [checkExtensions]
  rcases fault with ⟨known, rfl⟩ | ⟨fresh, before, listener, after, split, undeclared, sound, rfl⟩
  · rw [if_pos known]
  · have found : extension.undeclared? hierarchy = some listener :=
      ExtensionEntry.undeclared?_eq_some_iff.mpr ⟨before, after, split, undeclared, sound⟩
    rw [if_neg fresh, found]

theorem checkExtensions_of_firstFault (first : FirstFault hierarchy extensions error) :
    checkExtensions hierarchy [] extensions = .error error := by
  obtain ⟨before, extension, after, rfl, faultless, fault⟩ := first
  rw [checkExtensions_append faultless fun _ _ => List.not_mem_nil]
  refine checkExtensions_of_fault ?_ after
  simpa only [ExtensionEntry.Fault, List.append_nil, List.mem_reverse] using fault

theorem checkExtensions_eq_ok_iff :
    checkExtensions hierarchy [] extensions = .ok () ↔ Faultless hierarchy extensions := by
  refine ⟨fun passed => ?_, checkExtensions_of_faultless⟩
  rcases faultless_or_firstFault hierarchy extensions with faultless | ⟨error, first⟩
  · exact faultless
  · cases passed.symm.trans (checkExtensions_of_firstFault first)

theorem checkExtensions_eq_error_iff :
    checkExtensions hierarchy [] extensions = .error error ↔
      FirstFault hierarchy extensions error := by
  refine ⟨fun refused => ?_, checkExtensions_of_firstFault⟩
  rcases faultless_or_firstFault hierarchy extensions with faultless | ⟨other, first⟩
  · cases refused.symm.trans (checkExtensions_of_faultless faultless)
  · cases refused.symm.trans (checkExtensions_of_firstFault first)
    exact first

/-! ### The registry -/

/-- Each extension with its dependencies, as it is registered. -/
def declarations (manifest : Manifest) : List (ExtensionId × List Dependency) :=
  manifest.extensions.map fun extension => (extension.id, extension.dependencies)

/-- Nothing is refused by a registry that is not sealed. -/
theorem registry_value (manifest : Manifest) :
    manifest.registry.value = .ok (.ofDeclarations manifest.declarations) := by
  have onwards : ∀ (extensions : List ExtensionEntry)
      (registered : Logged (Except RegistryError Registry)) (registry : Registry),
      registered.value = .ok registry → registry.isSealed = false →
        (extensions.foldl (fun registered extension => registered.andThen fun registry =>
          registry.register extension.id extension.dependencies) registered).value =
          .ok ((extensions.map fun extension => (extension.id, extension.dependencies)).foldl
            (fun registry declaration => registry.declare declaration.1 declaration.2)
            registry) := by
    intro extensions
    induction extensions with
    | nil => exact fun _ _ same _ => same
    | cons extension rest ih =>
      intro registered registry same unsealed
      have declared := Registry.declare_of_unsealed unsealed extension.id extension.dependencies
      have accepted : (registry.register extension.id extension.dependencies).value =
          .ok (registry.declare extension.id extension.dependencies) := by
        rw [declared]
        unfold Registry.register
        rw [unsealed]
        rfl
      refine ih _ (registry.declare extension.id extension.dependencies) ?_ ?_
      · show (registered.andThen _).value = _
        unfold Logged.andThen
        rw [same]
        exact accepted
      · rw [declared]
        exact unsealed
  exact onwards manifest.extensions _ {} rfl rfl

theorem size_registry_iff (manifest : Manifest) :
    (Registry.ofDeclarations manifest.declarations).size = manifest.extensions.length ↔
      (manifest.extensions.map ExtensionEntry.id).Nodup := by
  have names : manifest.declarations.map Prod.fst =
      manifest.extensions.map ExtensionEntry.id := by
    unfold declarations
    rw [List.map_map]
    rfl
  rw [← names, ← Registry.size_ofDeclarations_iff]
  simp [declarations]

/-- The listeners of all extensions, in order. -/
def listeners (manifest : Manifest) : List ListenerEntry :=
  manifest.extensions.flatMap ExtensionEntry.listens

end Manifest

/-! ### The bus -/

namespace Bus

open Manifest

/-- The subscriber that a listener describes, with a name and a handler. -/
def subscriberOf (name : String) (handler : κ) (listener : ListenerEntry) : Subscriber κ :=
  { listener.draft name with name, handler }

/-- The bus with a listener, under a name and with a handler. -/
def connect (bus : Bus κ) (name : String) (handler : κ) (listener : ListenerEntry) :
    Except ConfigurationError (Bus κ) := do
  let subscriber ← Subscriber.Draft.build { listener.draft name with handler := some handler }
  let (_, later) ← bus.subscribe subscriber
  return later

/-- The bus with several listeners, each under its own name and with its own handler, up to the first
that is refused. -/
def connectAll (bus : Bus κ) (names : Nat → String) (handlers : Nat → κ)
    (listeners : List ListenerEntry) : Except ConfigurationError (Bus κ) :=
  listeners.zipIdx.foldlM
    (fun bus entry => bus.connect (names entry.2) (handlers entry.2) entry.1) bus

theorem connect_cases (bus : Bus κ) (name : String) (handler : κ) (listener : ListenerEntry) :
    (bus.hierarchy.contains listener.eventType = true ∧
      ∃ later, bus.connect name handler listener = .ok later ∧
        later.hierarchy = bus.hierarchy) ∨
    (bus.hierarchy.contains listener.eventType = false ∧
      bus.connect name handler listener = .error (.undeclaredEventType listener.eventType)) := by
  have connected : bus.connect name handler listener =
      (bus.subscribeTo listener.eventType (subscriberOf name handler listener)).map Prod.snd := by
    show (bus.subscribeTo listener.eventType (subscriberOf name handler listener) >>=
      fun result => pure result.2) = _
    cases bus.subscribeTo listener.eventType (subscriberOf name handler listener) <;> rfl
  rw [connected]
  unfold subscribeTo
  cases bus.hierarchy.contains listener.eventType with
  | true => exact .inl ⟨rfl, _, rfl, rfl⟩
  | false => exact .inr ⟨rfl, rfl⟩

theorem exists_connectAll_iff (bus : Bus κ) (names : Nat → String) (handlers : Nat → κ)
    (listeners : List ListenerEntry) :
    (∃ later, bus.connectAll names handlers listeners = .ok later) ↔
      ∀ listener ∈ listeners, bus.hierarchy.contains listener.eventType = true := by
  unfold connectAll
  generalize 0 = start
  induction listeners generalizing bus start with
  | nil => simp [List.zipIdx, pure, Except.pure]
  | cons listener rest ih =>
    rw [List.zipIdx_cons, List.foldlM_cons, List.forall_mem_cons]
    dsimp only
    rcases bus.connect_cases (names start) (handlers start) listener with
      ⟨declared, later, connected, hierarchy⟩ | ⟨undeclared, refused⟩
    · rw [connected, and_iff_right declared, ← hierarchy]
      exact ih later (start + 1)
    · rw [refused, undeclared]
      refine iff_of_false ?_ (fun both => Bool.false_ne_true both.1)
      rintro ⟨later, reached⟩
      cases reached

end Bus

namespace Manifest

theorem faultless_iff (hierarchy : Hierarchy) (manifest : Manifest) :
    Faultless hierarchy manifest.extensions ↔
      (manifest.extensions.map ExtensionEntry.id).Nodup ∧
        ∀ listener ∈ manifest.listeners, hierarchy.contains listener.eventType = true := by
  unfold listeners
  simp only [List.forall_mem_flatMap]
  exact ⟨fun faultless => ⟨faultless.once, faultless.declared⟩, fun both => ⟨both.1, both.2⟩⟩

/-- **A manifest is valid exactly when everything can be built from it**: its hierarchy, a registry
that holds as many extensions as it lists, and a new bus with all its listeners, whatever their
names and handlers. An invalid manifest with a hierarchy is reported by the first fault of its
extensions, and without one by the error about its event types. -/
theorem validate_exact (manifest : Manifest) (names : Nat → String) (handlers : Nat → κ) :
    (manifest.validate = .ok () ↔
      ∃ hierarchy registry bus, manifest.hierarchy = .ok hierarchy ∧
        manifest.registry.value = .ok registry ∧ registry.size = manifest.extensions.length ∧
        Bus.connectAll { hierarchy } names handlers manifest.listeners = .ok bus) ∧
    match manifest.hierarchy with
    | .ok hierarchy => ∀ error,
      manifest.validate = .error error ↔ FirstFault hierarchy manifest.extensions error
    | .error error => manifest.validate = .error error := by
  unfold validate
  cases manifest.hierarchy with
  | error error =>
    refine ⟨iff_of_false nofun ?_, rfl⟩
    rintro ⟨hierarchy, registry, bus, found, -⟩
    cases found
  | ok hierarchy =>
    refine ⟨?_, fun error => checkExtensions_eq_error_iff⟩
    have connected :=
      Bus.exists_connectAll_iff { hierarchy } names handlers manifest.listeners
    refine checkExtensions_eq_ok_iff.trans ?_
    rw [faultless_iff, ← size_registry_iff, ← connected]
    constructor
    · rintro ⟨full, bus, reached⟩
      exact ⟨hierarchy, _, bus, rfl, manifest.registry_value, full, reached⟩
    · rintro ⟨_, registry, bus, ⟨⟩, registered, full, reached⟩
      cases manifest.registry_value.symm.trans registered
      exact ⟨full, bus, reached⟩

/-- A name that was used before is reported, and not the undeclared type behind it. -/
example : validate { extensions := [{ id := ⟨"core"⟩ },
    { id := ⟨"core"⟩, listens := [{ eventType := ⟨"absent"⟩ }] }] } =
      .error (.duplicateExtension ⟨"core"⟩) := rfl

end Manifest

end ExtensionHost
