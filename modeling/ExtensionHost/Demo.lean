/-
**A demonstration: the extensions of a manifest receive one event of every declared type.**

The extensions are put in load order, and in that order their listeners are registered on a new bus.
The handler of a listener takes note of its call, and does nothing else.

* `Signal`: the event of the demonstration; it can be cancelled.
* `Demo.enrol`: registers listeners.
* `Demo.round`: one dispatch, with the calls made during it.
* `Demo.run`: the whole demonstration.
-/

import ExtensionHost.Bus.Dispatch
import ExtensionHost.Manifest.Basic

namespace ExtensionHost

/-- An event with nothing but its type and a cancellation flag. -/
structure Signal where
  /-- The type of the event. -/
  eventType : EventType
  /-- Whether the event is cancelled. -/
  isCancelled : Bool := false
deriving DecidableEq, Repr

instance : Event Signal where
  eventType := Signal.eventType
  cancellation? signal := some signal.isCancelled
  setCancelled? signal isCancelled := some { signal with isCancelled }

namespace Demo

/-- A call of a handler. -/
structure Call where
  /-- The extension whose handler it is. -/
  extension : ExtensionId
  /-- The type of the event. -/
  eventType : EventType
deriving DecidableEq, Repr

/-- The program of the demonstration, in which a handler is named for its extension and the memory
holds all calls. There are no predicates. -/
def program : Program (List Call) Signal ExtensionId where
  test _ _ := .done true
  handle extension _ signal :=
    .ask (.plain .memory) fun calls =>
      .ask (.plain (.remember (calls ++ [{ extension, eventType := signal.eventType }]))) fun _ =>
        .done (.ok ())

/-! ### Registering listeners -/

/-- A listener with the extension to which it belongs. -/
structure Listening where
  /-- The extension. -/
  extension : ExtensionId
  /-- The rules of the listener. -/
  listener : Manifest.ListenerEntry
deriving DecidableEq, Repr

/-- The listeners of an extension, in order. -/
def listenings (extension : Manifest.ExtensionEntry) : List Listening :=
  extension.listens.map fun listener => { extension := extension.id, listener }

/-- The subscriber of a listener; it has the name of the extension. -/
def Listening.subscriber (listening : Listening) :
    Except ConfigurationError (Subscriber ExtensionId) :=
  Subscriber.Draft.build { listening.listener.draft listening.extension.text with
    handler := some listening.extension }

/-- Registers a listener. -/
def enrol (bus : Bus ExtensionId) (listening : Listening) :
    Except ConfigurationError (Registration ExtensionId × Bus ExtensionId) := do
  bus.subscribe (← listening.subscriber)

/-- Registers listeners in order, up to the first that is refused. -/
def enrolAll (bus : Bus ExtensionId) :
    List Listening → Except ConfigurationError (List (Registration ExtensionId) × Bus ExtensionId)
  | [] => return ([], bus)
  | listening :: rest => do
    let (registration, bus) ← enrol bus listening
    let (others, bus) ← enrolAll bus rest
    return (registration :: others, bus)

/-! ### Dispatching -/

/-- One dispatch of the demonstration. -/
structure Round where
  /-- The type of the event. -/
  eventType : EventType
  /-- How many registrations received the type before the dispatch. -/
  subscriberCount : Nat
  /-- The calls made during the dispatch, in order. -/
  calls : List Call
  /-- The report of the dispatch. -/
  outcome : Outcome ExtensionId

/-- Dispatches one event. No handler dispatches another. -/
def round (signal : Signal) : Run (List Call) Signal ExtensionId Round := do
  let subscriberCount := (← Run.bus).subscriberCount signal.eventType
  modify fun session => { session with memory := [] }
  let (_, outcome) ← Dispatch.dispatch program 1 signal
  return { eventType := signal.eventType, subscriberCount, calls := (← get).memory, outcome }

/-- Dispatches events one after the other on a bus. -/
def rounds (bus : Bus ExtensionId) (signals : List Signal) : Option (List Round) :=
  (Run.on (signals.mapM round) { bus, memory := [] }).1

/-! ### The demonstration -/

/-- What stands before the first dispatch. -/
structure Setup where
  /-- The load order of the extensions. -/
  order : List ExtensionId
  /-- The listeners in the order in which they were registered. -/
  listenings : List Listening
  /-- Their registrations, in the same order. -/
  registrations : List (Registration ExtensionId)
  /-- The bus. -/
  bus : Bus ExtensionId

/-- What a demonstration shows. -/
structure Report where
  /-- What stood before the first dispatch. -/
  setup : Setup
  /-- One dispatch for each declared type, in the order of declaration. -/
  rounds : List Round

/-- Why a demonstration ends early. -/
inductive Halt where
  /-- There is no load order. -/
  | registry (error : RegistryError)
  /-- There is no hierarchy, or a listener cannot be registered. -/
  | configuration (error : ConfigurationError)
deriving DecidableEq, Repr

/-- The text of the error. -/
def Halt.message : Halt → String
  | registry error => error.message
  | configuration error => error.message

/-- Puts the extensions in order, and registers their listeners on a new bus. -/
def prepare (manifest : Manifest) : Except Halt Setup := do
  let (order, _) ← manifest.loadOrder.value.mapError .registry
  let hierarchy ← manifest.hierarchy.mapError .configuration
  let listenings := (order.filterMap manifest.find?).flatMap listenings
  let (registrations, bus) ← (enrolAll { hierarchy } listenings).mapError .configuration
  return { order, listenings, registrations, bus }

/-- The events of the demonstration: one of every declared type. -/
def signals (setup : Setup) : List Signal :=
  setup.bus.hierarchy.types.map fun eventType => { eventType }

/-- The demonstration of a manifest, without a result if one of its dispatches does not end. -/
def run (manifest : Manifest) : Option (Except Halt Report) :=
  match prepare manifest with
  | .error halt => some (.error halt)
  | .ok setup => (rounds setup.bus (signals setup)).map fun rounds => .ok { setup, rounds }

end Demo

end ExtensionHost
