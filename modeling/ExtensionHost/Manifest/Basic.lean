/-
**Manifests: the event types and the extensions of a host, as plain data.**

A manifest may be inconsistent; its parts are checked when something is built from them.

* `Manifest`: declared event types, and extensions with their dependencies and listeners.
* `Manifest.hierarchy`, `Manifest.registry`: what is built from the two parts.
* `ListenerEntry.draft`: the subscriber that a listener describes, except for its handler.
* `Manifest.validate`: the first fault, where there is one. Dependencies are not looked at; they are
  resolved by the registry.
-/

import ExtensionHost.Bus.Subscriber
import ExtensionHost.Event.Hierarchy
import ExtensionHost.Extension.Registry

namespace ExtensionHost

namespace Manifest

/-- A dependency as a manifest writes it. -/
inductive DependencyEntry where
  /-- A name alone, which is required. -/
  | bare (target : ExtensionId)
  /-- A name, and whether it may be absent. -/
  | detailed (target : ExtensionId) (isOptional : Bool)
deriving DecidableEq, Repr

/-- The declared dependency. -/
def DependencyEntry.dependency : DependencyEntry → Dependency
  | bare target => { target }
  | detailed target true => { target, kind := .optional }
  | detailed target false => { target }

/-- The rules under which an extension listens to an event type. -/
structure ListenerEntry where
  /-- The type to listen to. -/
  eventType : EventType
  /-- The place among the subscribers to one event. -/
  priority : Priority := .normal
  /-- Whether cancelled events are received. -/
  acceptsCancelled : Bool := false
  /-- How many invocations there are at most; zero sets no limit. -/
  expireAfter : Option Nat := none
deriving DecidableEq, Repr

/-- The subscriber that the rules describe, under a name and without a handler. -/
def ListenerEntry.draft {κ : Type} (listener : ListenerEntry) (name : String) :
    Subscriber.Draft κ where
  name := some name
  eventType := some listener.eventType
  priority := listener.priority
  acceptsCancelled := listener.acceptsCancelled
  limit := listener.expireAfter.bind Limit.ofNat?

/-- An extension with its dependencies and listeners. -/
structure ExtensionEntry where
  /-- The name of the extension. -/
  id : ExtensionId
  /-- What it depends on. -/
  dependsOn : List DependencyEntry := []
  /-- What it listens to. -/
  listens : List ListenerEntry := []
deriving DecidableEq, Repr

/-- The declared dependencies of the extension, in order. -/
def ExtensionEntry.dependencies (extension : ExtensionEntry) : List Dependency :=
  extension.dependsOn.map DependencyEntry.dependency

end Manifest

/-- The event types and the extensions of a host. -/
structure Manifest where
  /-- The event types, in the order of declaration. -/
  eventTypes : List Declaration := []
  /-- The extensions, in the order of registration. -/
  extensions : List Manifest.ExtensionEntry := []
deriving DecidableEq, Repr

namespace Manifest

/-- The hierarchy of the declared event types. -/
def hierarchy (manifest : Manifest) : Except ConfigurationError Hierarchy :=
  Hierarchy.build manifest.eventTypes

/-- A registry with all extensions, registered in order. -/
def registry (manifest : Manifest) : Logged (Except RegistryError Registry) :=
  manifest.extensions.foldl
    (fun registered extension =>
      registered.andThen fun registry => registry.register extension.id extension.dependencies)
    { value := .ok {} }

/-- The order in which the extensions are loaded. -/
def loadOrder (manifest : Manifest) : Logged (Except RegistryError (List ExtensionId × Registry)) :=
  manifest.registry.andThen Registry.loadOrder

/-- The extension of that name; of several, the first. -/
def find? (manifest : Manifest) (id : ExtensionId) : Option ExtensionEntry :=
  manifest.extensions.find? (·.id = id)

/-! ### Validation -/

/-- The first listener to an event type that is not declared. -/
def ExtensionEntry.undeclared? (extension : ExtensionEntry) (hierarchy : Hierarchy) :
    Option ListenerEntry :=
  extension.listens.find? fun listener => !hierarchy.contains listener.eventType

/-- The first fault of the extensions, read in order after those that were seen. The name of an
extension is looked at before its listeners. -/
def checkExtensions (hierarchy : Hierarchy) :
    (seen : List ExtensionId) → List ExtensionEntry → Except ConfigurationError Unit
  | _, [] => .ok ()
  | seen, extension :: rest =>
    if extension.id ∈ seen then .error (.duplicateExtension extension.id)
    else
      match extension.undeclared? hierarchy with
      | some listener => .error (.undeclaredEventType listener.eventType)
      | none => checkExtensions hierarchy (extension.id :: seen) rest

/-- The first fault: one of the event types, else one of the extensions. -/
def validate (manifest : Manifest) : Except ConfigurationError Unit := do
  checkExtensions (← manifest.hierarchy) [] manifest.extensions

end Manifest

end ExtensionHost
