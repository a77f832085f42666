/-
**Paths in messages: the names of the stations, joined by arrows.**

* `arrows`: `a -> b -> c` for the path through `a`, `b` and `c`.
-/

namespace ExtensionHost.Text

/-- The names joined by arrows. -/
def arrows (names : List String) : String :=
  " -> ".intercalate names

end ExtensionHost.Text
