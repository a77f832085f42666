/-
**Errors in what is declared: event types, subscribers and extensions.**

* `ConfigurationError`: the causes.
* `ConfigurationError.message`: their texts.
-/

import ExtensionHost.EventType
import ExtensionHost.Extension.Dependency
import ExtensionHost.Text.Arrows

namespace ExtensionHost

/-- Why a declaration is refused. -/
inductive ConfigurationError where
  /-- A subscriber without an event type was to be registered for its own type. -/
  | missingEventType (subscriber : String)
  /-- The event type is not declared. -/
  | undeclaredEventType (eventType : EventType)
  /-- A subscriber was finished without a handler. -/
  | missingHandler (subscriber : String)
  /-- A declared event type names a parent that is not declared. -/
  | unknownParent (eventType parent : EventType)
  /-- An event type is declared a second time. -/
  | duplicateEventType (eventType : EventType)
  /-- The parents of an event type lead back to it. -/
  | cyclicHierarchy (cycle : List EventType)
  /-- An extension is declared a second time. -/
  | duplicateExtension (id : ExtensionId)
deriving DecidableEq, Repr

/-- The text of the error. -/
def ConfigurationError.message : ConfigurationError → String
  | missingEventType subscriber =>
    "subscriber '" ++ subscriber ++
      "' does not have an event type, use subscribe_to or set one on the builder"
  | undeclaredEventType eventType =>
    "event type '" ++ eventType.name ++ "' is not declared in the event hierarchy"
  | missingHandler subscriber => "subscriber '" ++ subscriber ++ "' has no handler"
  | unknownParent eventType parent =>
    "event type '" ++ eventType.name ++ "' declares unknown parent '" ++ parent.name ++ "'"
  | duplicateEventType eventType =>
    "event type '" ++ eventType.name ++ "' is declared more than once"
  | cyclicHierarchy cycle =>
    "event hierarchy contains a cycle: " ++ Text.arrows (cycle.map EventType.name)
  | duplicateExtension id => "extension '" ++ id.text ++ "' is declared more than once"

end ExtensionHost
