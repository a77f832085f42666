/-
**Extensions by name, and what one extension asks of another.**

* `ExtensionId`: the name of an extension.
* `Dependency`: a target, and whether its absence is an error.
-/

import ExtensionHost.Text.Quoted

namespace ExtensionHost

/-- The name of an extension. -/
structure ExtensionId where
  /-- The text of the name. -/
  text : String
deriving DecidableEq, Repr, Inhabited

namespace ExtensionId

/-- Names in the order of their texts, by code point. -/
instance : LE ExtensionId where
  le first second := first.text ≤ second.text

instance (first second : ExtensionId) : Decidable (first ≤ second) :=
  inferInstanceAs (Decidable (first.text ≤ second.text))

instance : Text.Labelled ExtensionId where
  label id := "ExtensionId(" ++ Text.quoted id.text ++ ")"

end ExtensionId

/-- Whether the absence of a dependency's target is an error. -/
inductive DependencyKind where
  /-- The target has to be registered. -/
  | required
  /-- Without effect when the target is not registered, and like a required one when it is. -/
  | optional
deriving DecidableEq, Repr

/-- One declared dependency. -/
structure Dependency where
  /-- The extension that is to be loaded first. -/
  target : ExtensionId
  /-- Whether the target may be absent. -/
  kind : DependencyKind := .required
deriving DecidableEq, Repr

/-- Whether the target may be absent. -/
def Dependency.isOptional (dependency : Dependency) : Bool :=
  dependency.kind = .optional

end ExtensionHost
