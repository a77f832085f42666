/-
**What the library reports while it works.**

* `Notice`: everything there is to report, one constructor each.
* `Notice.level`, `Notice.text`, `Notice.fields`: how a notice is written to a log.
* `Notice.span?`: the span that a notice opens around what follows it, if it opens one.
* `Logged`: a result with the notices given on the way to it; `Logged.andThen` goes on with it.
-/

import ExtensionHost.Event.Failure
import ExtensionHost.Extension.Dependency
import ExtensionHost.Priority
import ExtensionHost.Text.Arrows

namespace ExtensionHost

/-- How much a log line matters. -/
inductive Level where
  | trace
  | debug
  | info
  | warn
  | error
deriving DecidableEq, Repr

/-- The written form of a level. -/
def Level.name : Level → String
  | trace => "TRACE"
  | debug => "DEBUG"
  | info => "INFO"
  | warn => "WARN"
  | error => "ERROR"

/-- The value of a field of a log line. -/
inductive FieldValue where
  | text (value : String)
  | number (value : Nat)
  | flag (value : Bool)
deriving DecidableEq, Repr

/-- A line of a log. -/
inductive LogLine where
  /-- Something that happened. -/
  | event (level : Level) (text : String) (fields : List (String × FieldValue))
  /-- A span that was opened. -/
  | span (level : Level) (name : String) (fields : List (String × FieldValue))
deriving DecidableEq, Repr

/-- What there is to report. -/
inductive Notice where
  /-- A subscriber was registered. -/
  | subscriberRegistered (subscriber : String) (id : Nat) (eventType : EventType)
      (priority : Priority)
  /-- One registration was revoked. -/
  | subscriptionRevoked (subscriber : String) (id : Nat) (eventType : EventType)
  /-- The registrations that match a predicate were removed. -/
  | subscribersRemoved (removed : Nat)
  /-- The list of those who receive a type was computed. -/
  | dispatchListRebuilt (eventType : EventType) (lineageLength subscriberCount : Nat)
  /-- An event is about to be delivered. -/
  | dispatchStarted (eventType : EventType) (subscriberCount : Nat)
  /-- A delivery failed. -/
  | handlerFailed (error : HandlerError)
  /-- An extension was registered. -/
  | extensionRegistered (id : ExtensionId) (dependencyCount : Nat)
  /-- The extension had been registered before. -/
  | extensionReplaced (id : ExtensionId)
  /-- An optional dependency has no effect. -/
  | optionalDependencySkipped (id dependency : ExtensionId)
  /-- A required dependency is absent. -/
  | missingDependency (id dependency : ExtensionId)
  /-- The dependencies run in a circle. -/
  | cyclicDependency (cycle : List ExtensionId)
  /-- The load order was found. -/
  | loadOrderResolved (order : List ExtensionId) (edgeCount : Nat)
deriving DecidableEq, Repr

namespace Notice

/-- How much the notice matters. -/
def level : Notice → Level
  | dispatchListRebuilt .. | dispatchStarted .. => .trace
  | subscriberRegistered .. | subscriptionRevoked .. | subscribersRemoved .. => .debug
  | extensionRegistered .. | optionalDependencySkipped .. => .debug
  | loadOrderResolved .. => .info
  | extensionReplaced .. => .warn
  | handlerFailed .. | missingDependency .. | cyclicDependency .. => .error

/-- The notice in words. -/
def text : Notice → String
  | subscriberRegistered subscriber id eventType priority =>
    "Subscriber '" ++ subscriber ++ "' registered for '" ++ eventType.name ++ "' at " ++
      priority.name ++ " priority (registration " ++ toString id ++ ")"
  | subscriptionRevoked subscriber id eventType =>
    "Subscriber '" ++ subscriber ++ "' revoked from '" ++ eventType.name ++ "' (registration " ++
      toString id ++ ")"
  | subscribersRemoved removed =>
    "Removed " ++ toString removed ++ " subscriber(s) matching predicate"
  | dispatchListRebuilt eventType lineageLength subscriberCount =>
    "Rebuilt dispatch list for '" ++ eventType.name ++ "': " ++ toString subscriberCount ++
      " subscriber(s) across " ++ toString lineageLength ++ " type(s)"
  | dispatchStarted eventType subscriberCount =>
    "Dispatching '" ++ eventType.name ++ "' to " ++ toString subscriberCount ++ " subscriber(s)"
  | handlerFailed error => "Handler failed: " ++ error.message
  | extensionRegistered id dependencyCount =>
    "Extension '" ++ id.text ++ "' registered with " ++ toString dependencyCount ++
      " declared dependencies"
  | extensionReplaced id =>
    "Extension '" ++ id.text ++ "' was already registered, replacing its declaration"
  | optionalDependencySkipped id dependency =>
    "Extension '" ++ id.text ++ "' optionally depends on '" ++ dependency.text ++
      "', which is not registered"
  | missingDependency id dependency =>
    "Extension '" ++ id.text ++ "' depends on missing extension '" ++ dependency.text ++ "'"
  | cyclicDependency cycle =>
    "Cyclic dependency detected: " ++ Text.arrows (cycle.map ExtensionId.text)
  | loadOrderResolved order edgeCount =>
    "Resolved load order for " ++ toString order.length ++ " extensions (" ++ toString edgeCount ++
      " dependency edges): " ++ ", ".intercalate (order.map ExtensionId.text)

/-- The values that the notice carries, by field name. -/
def fields : Notice → List (String × FieldValue)
  | subscriberRegistered subscriber id eventType priority =>
    [("subscriber", .text subscriber), ("registration_id", .number id),
      ("event_type", .text eventType.name), ("priority", .text priority.name)]
  | subscriptionRevoked subscriber id eventType =>
    [("subscriber", .text subscriber), ("registration_id", .number id),
      ("event_type", .text eventType.name)]
  | subscribersRemoved removed => [("removed", .number removed)]
  | dispatchListRebuilt eventType lineageLength subscriberCount =>
    [("event_type", .text eventType.name), ("lineage_length", .number lineageLength),
      ("subscriber_count", .number subscriberCount)]
  | dispatchStarted eventType subscriberCount =>
    [("event_type", .text eventType.name), ("subscriber_count", .number subscriberCount)]
  | handlerFailed error =>
    [("subscriber", .text error.subscriber), ("event_type", .text error.eventType.name),
      ("panicked", .flag error.failure.isPanic)]
  | extensionRegistered id dependencyCount =>
    [("extension_id", .text id.text), ("dependency_count", .number dependencyCount)]
  | extensionReplaced id => [("extension_id", .text id.text)]
  | optionalDependencySkipped id dependency | missingDependency id dependency =>
    [("extension_id", .text id.text), ("dependency", .text dependency.text)]
  | cyclicDependency cycle =>
    [("cycle", .text (Text.arrows (cycle.map ExtensionId.text))),
      ("cycle_length", .number cycle.length)]
  | loadOrderResolved order edgeCount =>
    [("extension_count", .number order.length), ("edge_count", .number edgeCount)]

/-- The notice as a line of a log. -/
def line (notice : Notice) : LogLine :=
  .event notice.level notice.text notice.fields

/-- The span, with a name of the caller's choice among its fields. Only the start of a dispatch
opens one. -/
def span? (notice : Notice) (name : String) : Option LogLine :=
  match notice with
  | dispatchStarted _ _ =>
    some (.span .debug "dispatch" (("span_name", .text name) :: notice.fields))
  | _ => none

end Notice

/-- A result with the notices given on the way to it. -/
structure Logged (α : Type) where
  /-- The result. -/
  value : α
  /-- The notices, in order. -/
  log : List Notice := []

/-- Goes on with a result. An error ends the work; what was noticed before it stays. -/
def Logged.andThen {ε α β : Type} (first : Logged (Except ε α)) (next : α → Logged (Except ε β)) :
    Logged (Except ε β) :=
  match first.value with
  | .error error => { value := .error error, log := first.log }
  | .ok value => { next value with log := first.log ++ (next value).log }

end ExtensionHost
