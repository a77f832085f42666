/-
**What the bus needs to know of an event: its type, and whether it is cancelled.**

* `Event`: the type, the cancellation flag where there is one, and its change where that is allowed.
* `Event.isCancelled`, `Event.cancel?`: the two questions that the bus and its subscribers ask.
-/

import ExtensionHost.EventType

namespace ExtensionHost

/-- Values that can be dispatched. -/
class Event (ε : Type) where
  /-- The type under which the event is dispatched. -/
  eventType : ε → EventType
  /-- The cancellation flag, for events that have one. -/
  cancellation? : ε → Option Bool
  /-- The event with another cancellation flag, if the flag may be changed. -/
  setCancelled? : ε → Bool → Option ε

namespace Event

variable {ε : Type} [Event ε]

/-- Whether the event is cancelled; an event without a flag is not. -/
def isCancelled (event : ε) : Bool :=
  (cancellation? event).getD false

/-- The cancelled event, if it can be cancelled. -/
def cancel? (event : ε) : Option ε :=
  setCancelled? event true

end Event

end ExtensionHost
