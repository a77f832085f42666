/-
**The registry of extensions, and the order in which they are loaded.**

* `Registry.register`: declares an extension with its dependencies; a second declaration replaces
  the first and keeps its place.
* `Registry.dependencyGraph`: an edge from each extension to each registered extension that it
  depends on, unless a required one is missing.
* `Registry.loadOrder`: every extension after those it depends on; on success the registry is
  sealed.
* `RegistryError`: why one of these fails.
-/

import ExtensionHost.Graph.Order
import ExtensionHost.Log.Notice
import ExtensionHost.Table.Basic

namespace ExtensionHost

/-- Why the registry refuses a request. -/
inductive RegistryError where
  /-- A required dependency is not registered. -/
  | missingDependency (extension dependency : ExtensionId)
  /-- The dependencies run in a circle. -/
  | circularDependency (cycle : List ExtensionId)
  /-- The load order has been computed, and nothing can change any more. -/
  | registrySealed
  /-- The graph of the dependencies refuses an edge. -/
  | graph (error : GraphError)
deriving DecidableEq, Repr

/-- The text of the error. -/
def RegistryError.message : RegistryError → String
  | missingDependency extension dependency =>
    "extension '" ++ extension.text ++ "' requires '" ++ dependency.text ++
      "' but it is not registered"
  | circularDependency cycle =>
    "circular dependency detected: " ++ Text.arrows (cycle.map ExtensionId.text)
  | registrySealed => "extension registry is sealed: the load order has already been computed"
  | graph error => error.message

/-- The declared extensions. -/
structure Registry where
  /-- The dependencies of each extension, in the order of first registration. -/
  declarations : Table ExtensionId (List Dependency) := ∅
  /-- Whether the load order has been computed. -/
  isSealed : Bool := false

namespace Registry

/-- The registered extensions, in the order of first registration. -/
def ids (registry : Registry) : List ExtensionId :=
  registry.declarations.keys

/-- The number of registered extensions. -/
def size (registry : Registry) : Nat :=
  registry.declarations.size

/-- Whether nothing is registered. -/
def isEmpty (registry : Registry) : Bool :=
  registry.declarations.isEmpty

/-- Whether the extension is registered. -/
def contains (registry : Registry) (id : ExtensionId) : Bool :=
  registry.declarations.contains id

/-- The dependencies of a registered extension, as last declared. -/
def dependenciesOf? (registry : Registry) (id : ExtensionId) : Option (List Dependency) :=
  registry.declarations.get? id

/-- Declares an extension. -/
def register (registry : Registry) (id : ExtensionId) (dependencies : List Dependency) :
    Logged (Except RegistryError Registry) :=
  if registry.isSealed then { value := .error .registrySealed }
  else
    { value := .ok { registry with declarations := registry.declarations.insert id dependencies }
      log := .extensionRegistered id dependencies.length ::
        if registry.contains id then [.extensionReplaced id] else [] }

/-! ### The graph of the dependencies -/

/-- Each extension with each of its dependencies, in order. -/
def declared (registry : Registry) : List (ExtensionId × Dependency) :=
  registry.declarations.entries.flatMap fun entry => entry.2.map (entry.1, ·)

/-- The first extension with a required dependency that is not registered. -/
def missing? (registry : Registry) : Option (ExtensionId × ExtensionId) :=
  (registry.declared.find? fun (_, dependency) =>
    !dependency.isOptional && !registry.contains dependency.target).map
  fun (id, dependency) => (id, dependency.target)

/-- Adds the edge of one dependency, if its target is registered. -/
def putDependency (registry : Registry) (graph : Graph ExtensionId)
    (dependency : ExtensionId × Dependency) : Except RegistryError (Graph ExtensionId) :=
  if registry.contains dependency.2.target then
    match graph.putEdge dependency.1 dependency.2.target with
    | .ok (changed, _) => .ok changed
    | .error error => .error (.graph error)
  else .ok graph

/-- The notice about one dependency, if its target is not registered. -/
def skipNotice (registry : Registry) (dependency : ExtensionId × Dependency) : List Notice :=
  if registry.contains dependency.2.target then []
  else [.optionalDependencySkipped dependency.1 dependency.2.target]

/-- The graph of the registered extensions, with an edge for every dependency on one of them. All
required dependencies are checked before the first edge. -/
def dependencyGraph (registry : Registry) : Logged (Except RegistryError (Graph ExtensionId)) :=
  match registry.missing? with
  | some (id, dependency) =>
    { value := .error (.missingDependency id dependency)
      log := [.missingDependency id dependency] }
  | none =>
    let extensions := registry.ids.foldl (fun graph id => (graph.addNode id).1)
      { allowsSelfLoops := true }
    { value := registry.declared.foldlM registry.putDependency extensions
      log := registry.declared.flatMap registry.skipNotice }

/-! ### The load order -/

/-- The order of the extensions of a dependency graph; without edges it is that of registration. -/
def orderBy (registry : Registry) (graph : Graph ExtensionId) :
    Logged (Except RegistryError (List ExtensionId × Registry)) :=
  let order := if graph.edgeCount = 0 then .ok registry.ids else graph.topologicalOrder
  match order with
  | .error cycle =>
    { value := .error (.circularDependency cycle.path), log := [.cyclicDependency cycle.path] }
  | .ok order =>
    { value := .ok (order, { registry with isSealed := true })
      log := [.loadOrderResolved order graph.edgeCount] }

/-- Every extension after those it depends on, with the sealed registry. -/
def loadOrder (registry : Registry) :
    Logged (Except RegistryError (List ExtensionId × Registry)) :=
  if registry.isSealed then { value := .error .registrySealed }
  else registry.dependencyGraph.andThen registry.orderBy

end Registry

end ExtensionHost
