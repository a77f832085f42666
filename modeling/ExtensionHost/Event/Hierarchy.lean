/-
**The hierarchy of event types: who receives the events of which type.**

Each type declares its parents, in any number and any order of declaration. A subscriber for a type
receives the events of that type and of every type that has it among its ancestors.

* `Hierarchy.build`: checks the declarations. No type is declared twice, every parent is declared,
  and no type is its own ancestor.
* `Hierarchy.walk`: up from a type along the parents, with the types to be looked at in a queue.
* `Hierarchy.lineage`: a type and its ancestors, the nearest first, from the table of the walks.
* `Hierarchy.isAssignable`: whether events of one type go to subscribers for another.
-/

import ExtensionHost.ConfigurationError
import ExtensionHost.Graph.Order
import ExtensionHost.Table.Basic

namespace ExtensionHost

/-- A declared event type with its parents. -/
structure Declaration where
  /-- The type that is declared. -/
  eventType : EventType
  /-- Its parents, in order. -/
  parents : List EventType := []
deriving DecidableEq, Repr

namespace Hierarchy

/-- How far a walk from a type up to its ancestors has come. -/
structure Ascent where
  /-- The types that were met, in order. -/
  met : List EventType
  /-- Those of them whose parents have not been looked at. -/
  pending : List EventType

/-- Takes note of a parent, unless it was met before. -/
def Ascent.meet (ascent : Ascent) (parent : EventType) : Ascent :=
  if parent ∈ ascent.met then ascent
  else { met := ascent.met ++ [parent], pending := ascent.pending ++ [parent] }

/-- Looks at the parents of one pending type after the other, and gives the types that were met. -/
def ascend (declared : Table EventType (List EventType)) : (turns : Nat) → Ascent → List EventType
  | turns + 1, ⟨met, current :: pending⟩ =>
    ascend declared turns (((declared.get? current).getD []).foldl Ascent.meet ⟨met, pending⟩)
  | _, ascent => ascent.met

/-- The types that are named as parents, as often as they are. -/
def named (declared : Table EventType (List EventType)) : List EventType :=
  declared.values.flatten

/-- A type, then its parents, then the parents of those, each type once. A type is pending only
once, and all but the first are named as parents, so that there are turns enough. -/
def walk (declared : Table EventType (List EventType)) (eventType : EventType) : List EventType :=
  ascend declared ((named declared).length + 1) ⟨[eventType], [eventType]⟩

end Hierarchy

/-- The declared event types with their parents. The lineages are computed once. -/
structure Hierarchy where
  /-- The parents of each declared type, in the order of declaration. -/
  declared : Table EventType (List EventType)
  /-- The lineage of each declared type. -/
  lineages : Table EventType (List EventType)
  lineages_eq : lineages = declared.map fun eventType _ => Hierarchy.walk declared eventType

namespace Hierarchy

/-- The hierarchy of types with these parents. -/
def ofDeclared (declared : Table EventType (List EventType)) : Hierarchy where
  declared := declared
  lineages := declared.map fun eventType _ => walk declared eventType
  lineages_eq := rfl

/-- The declared types, in the order of declaration. -/
def types (hierarchy : Hierarchy) : List EventType :=
  hierarchy.declared.keys

/-- The number of declared types. -/
def size (hierarchy : Hierarchy) : Nat :=
  hierarchy.declared.size

/-- Whether no type is declared. -/
def isEmpty (hierarchy : Hierarchy) : Bool :=
  hierarchy.declared.isEmpty

/-- Whether the type is declared. -/
def contains (hierarchy : Hierarchy) (eventType : EventType) : Bool :=
  hierarchy.declared.contains eventType

/-- The declared parents of a type; an undeclared type has none. -/
def parents (hierarchy : Hierarchy) (eventType : EventType) : List EventType :=
  (hierarchy.declared.get? eventType).getD []

/-- A type and its ancestors, the nearest first; an undeclared type has none. -/
def lineage (hierarchy : Hierarchy) (eventType : EventType) : List EventType :=
  (hierarchy.lineages.get? eventType).getD [eventType]

/-- Whether events of the type `concrete` go to subscribers for the type `registered`. -/
def isAssignable (hierarchy : Hierarchy) (registered concrete : EventType) : Bool :=
  registered = concrete || (hierarchy.lineages.get? concrete).any (registered ∈ ·)

/-! ### Checking declarations -/

/-- The declarations as a table, or the first type that repeats an earlier one. -/
def tabulate (declarations : List Declaration) :
    Except ConfigurationError (Table EventType (List EventType)) :=
  declarations.foldlM (fun table declaration =>
    if table.contains declaration.eventType then
      .error (.duplicateEventType declaration.eventType)
    else .ok (table.insert declaration.eventType declaration.parents)) ∅

/-- Adds an edge from a type to one of its parents, which has to be declared and another type. -/
def putParent (declared : Table EventType (List EventType)) (graph : Graph EventType)
    (eventType parent : EventType) : Except ConfigurationError (Graph EventType) :=
  if declared.contains parent then
    match graph.putEdge eventType parent with
    | .ok (changed, _) => .ok changed
    | .error _ => .error (.cyclicHierarchy [eventType, parent])
  else .error (.unknownParent eventType parent)

/-- The graph with an edge from every type to each of its parents. -/
def parentGraph (declared : Table EventType (List EventType)) :
    Except ConfigurationError (Graph EventType) :=
  let types := declared.keys.foldl (fun graph eventType => (graph.addNode eventType).1) {}
  declared.entries.foldlM (fun graph entry =>
    entry.2.foldlM (fun graph parent => putParent declared graph entry.1 parent) graph) types

/-- The hierarchy of the declarations, or the first error found: a repeated type, then an undeclared
or own parent, then a cycle. -/
def build (declarations : List Declaration) : Except ConfigurationError Hierarchy := do
  let declared ← tabulate declarations
  let graph ← parentGraph declared
  match graph.topologicalOrder with
  | .error cycle => throw (.cyclicHierarchy cycle.path)
  | .ok _ => return .ofDeclared declared

end Hierarchy

end ExtensionHost
