/-
**Priorities: five steps that say who runs first.**

* `Priority`: from `highest`, which runs first, to `lowest`.
* `Priority.rank`: the step as a number, on which the order is defined.
* `Priority.name`, `Priority.ofName?`: the written form, and its reader.
-/

namespace ExtensionHost

/-- The place of a subscriber among those that receive one event. -/
inductive Priority where
  | highest
  | high
  | normal
  | low
  | lowest
deriving DecidableEq, Repr

namespace Priority

instance : Inhabited Priority where
  default := normal

/-- The number of steps that run earlier. -/
def rank : Priority → Nat
  | highest => 0
  | high => 1
  | normal => 2
  | low => 3
  | lowest => 4

/-- Priorities in running order. -/
instance : LE Priority where
  le first second := first.rank ≤ second.rank

instance : LT Priority where
  lt first second := first.rank < second.rank

instance (first second : Priority) : Decidable (first ≤ second) :=
  inferInstanceAs (Decidable (first.rank ≤ second.rank))

instance (first second : Priority) : Decidable (first < second) :=
  inferInstanceAs (Decidable (first.rank < second.rank))

/-- The written form. -/
def name : Priority → String
  | highest => "highest"
  | high => "high"
  | normal => "normal"
  | low => "low"
  | lowest => "lowest"

/-- The form in the description of a subscriber. -/
def title : Priority → String
  | highest => "Highest"
  | high => "High"
  | normal => "Normal"
  | low => "Low"
  | lowest => "Lowest"

/-- All priorities, in running order. -/
def all : List Priority :=
  [highest, high, normal, low, lowest]

/-- Reads a written form. -/
def ofName? (text : String) : Option Priority :=
  all.find? fun priority => priority.name = text

end Priority

end ExtensionHost
