/-
**Tables: one value per key, in the order in which the keys came.**

A value stored under a present key replaces the old one and keeps the key's place; a new key goes to
the end. That no key occurs twice is part of the type.

* `Table.singleton`: the table with one entry.
* `Table.get?`: the value under a key.
* `Table.insert`, `Table.erase`, `Table.modify`: store, remove and change one entry.
* `Table.modifyAll`: change several entries, one after the other.
* `Table.map`, `Table.filter`: the same for all entries, in order.
-/

namespace ExtensionHost

/-- A finite map whose entries keep the order in which their keys were first stored. -/
structure Table (κ β : Type) where
  /-- The keys with their values. -/
  entries : List (κ × β)
  /-- No key occurs twice. -/
  nodup : (entries.map Prod.fst).Nodup

namespace Table

variable {κ β γ : Type}

instance : EmptyCollection (Table κ β) where
  emptyCollection := ⟨[], List.nodup_nil⟩

instance : Inhabited (Table κ β) where
  default := ∅

/-- The table with one entry. -/
def singleton (key : κ) (value : β) : Table κ β where
  entries := [(key, value)]
  nodup := by simp

/-- The keys, in order. -/
def keys (table : Table κ β) : List κ :=
  table.entries.map Prod.fst

/-- The values, in the order of their keys. -/
def values (table : Table κ β) : List β :=
  table.entries.map Prod.snd

/-- The number of keys. -/
def size (table : Table κ β) : Nat :=
  table.entries.length

/-- Whether there are no keys. -/
def isEmpty (table : Table κ β) : Bool :=
  table.entries.isEmpty

/-- Applies a function to every value, keys and order unchanged. -/
def map (change : κ → β → γ) (table : Table κ β) : Table κ γ where
  entries := table.entries.map fun entry => (entry.1, change entry.1 entry.2)
  nodup := by simpa [Function.comp_def] using table.nodup

/-- The entries that pass the test, in order. -/
def filter (keep : κ → β → Bool) (table : Table κ β) : Table κ β where
  entries := table.entries.filter fun entry => keep entry.1 entry.2
  nodup := table.nodup.sublist (List.filter_sublist.map Prod.fst)

variable [DecidableEq κ]

/-- The value under a key. -/
def get? (table : Table κ β) (key : κ) : Option β :=
  table.entries.lookup key

/-- Whether the key is present. -/
def contains (table : Table κ β) (key : κ) : Bool :=
  key ∈ table.keys

/-- Replaces the value of a present key in place, or adds an entry at the end. -/
def insertEntry (key : κ) (value : β) : List (κ × β) → List (κ × β)
  | [] => [(key, value)]
  | entry :: rest =>
    if entry.1 = key then (key, value) :: rest else entry :: insertEntry key value rest

theorem map_fst_insertEntry (key : κ) (value : β) (entries : List (κ × β)) :
    (insertEntry key value entries).map Prod.fst =
      if key ∈ entries.map Prod.fst then entries.map Prod.fst
      else entries.map Prod.fst ++ [key] := by
  induction entries with
  | nil => simp [insertEntry]
  | cons entry rest ih =>
    by_cases same : entry.1 = key
    · simp [insertEntry, same]
    · have different : key ≠ entry.1 := fun equal => same equal.symm
      simp only [insertEntry, same, if_false, List.map_cons, ih, List.mem_cons, different, false_or]
      split <;> simp

/-- Stores a value under a key. -/
def insert (table : Table κ β) (key : κ) (value : β) : Table κ β where
  entries := insertEntry key value table.entries
  nodup := by
    rw [map_fst_insertEntry]
    split
    · exact table.nodup
    · rename_i absent
      rw [List.nodup_append]
      refine ⟨table.nodup, by simp, fun first present second last => ?_⟩
      rintro rfl
      exact absent (List.mem_singleton.mp last ▸ present)

/-- Removes a key with its value. -/
def erase (table : Table κ β) (key : κ) : Table κ β :=
  table.filter fun other _ => other ≠ key

/-- Changes the value of one key, if it is present. -/
def modify (table : Table κ β) (key : κ) (change : β → β) : Table κ β :=
  table.map fun other value => if other = key then change value else value

/-- Changes the values of several keys, one after the other, as far as they are present. -/
def modifyAll (table : Table κ β) (keys : List κ) (change : β → β) : Table κ β :=
  keys.foldl (fun changed key => changed.modify key change) table

end Table

end ExtensionHost
