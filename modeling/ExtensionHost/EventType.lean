/-
**Event types: the names by which events are told apart.**

* `EventType`: a name, equal to another exactly when the texts are equal, and ordered like them.
-/

import ExtensionHost.Text.Quoted

namespace ExtensionHost

/-- The tag that every event carries. -/
structure EventType where
  /-- The text of the tag. -/
  name : String
deriving DecidableEq, Repr, Inhabited

namespace EventType

/-- Event types in the order of their names, by code point. -/
instance : LE EventType where
  le first second := first.name ≤ second.name

instance (first second : EventType) : Decidable (first ≤ second) :=
  inferInstanceAs (Decidable (first.name ≤ second.name))

instance : Text.Labelled EventType where
  label eventType := "EventType(" ++ Text.quoted eventType.name ++ ")"

end EventType

end ExtensionHost
