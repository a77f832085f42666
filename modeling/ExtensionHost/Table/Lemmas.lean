/-
**What each table operation does to the keys and to the values under them.**

* `keys_insert`, `keys_erase`, `keys_map`, `keys_modify`: the keys after each operation.
* `entries_insert_of_not_mem`: where a new key goes.
* `get?_insert`, `get?_erase`, `get?_map`, `get?_filter`, `get?_modify`: the value under a key
  afterwards.
* `keys_modifyAll`, `get?_modifyAll`: the same when several entries are changed.
* `get?_isSome_iff`: a key has a value exactly when it is among the keys.
* `get?_of_perm`: tables with the same entries have the same values, whatever the order.
-/

import ExtensionHost.Table.Basic

namespace ExtensionHost.Table

variable {κ β γ : Type}

/-! ### Keys -/

@[simp] theorem keys_empty : (∅ : Table κ β).keys = [] := rfl

theorem nodup_keys (table : Table κ β) : table.keys.Nodup := table.nodup

@[simp] theorem keys_map (change : κ → β → γ) (table : Table κ β) :
    (table.map change).keys = table.keys := by
  simp [keys, map, Function.comp_def]

theorem map_eq_self {change : κ → β → β} {table : Table κ β}
    (idle : ∀ entry ∈ table.entries, change entry.1 entry.2 = entry.2) :
    table.map change = table := by
  obtain ⟨entries, distinct⟩ := table
  have same : (entries.map fun entry => (entry.1, change entry.1 entry.2)) = entries.map id :=
    List.map_congr_left fun entry member => Prod.ext rfl (idle entry member)
  simp only [map, same, List.map_id]

variable [DecidableEq κ]

theorem contains_iff {table : Table κ β} {key : κ} : table.contains key ↔ key ∈ table.keys := by
  simp [contains]

theorem keys_insert (table : Table κ β) (key : κ) (value : β) :
    (table.insert key value).keys =
      if key ∈ table.keys then table.keys else table.keys ++ [key] :=
  map_fst_insertEntry key value table.entries

@[simp] theorem mem_keys_insert {table : Table κ β} {key other : κ} {value : β} :
    other ∈ (table.insert key value).keys ↔ other = key ∨ other ∈ table.keys := by
  rw [keys_insert]
  split
  · rename_i present
    constructor
    · exact Or.inr
    · rintro (rfl | member)
      · exact present
      · exact member
  · simp [or_comm]

@[simp] theorem keys_erase (table : Table κ β) (key : κ) :
    (table.erase key).keys = table.keys.filter (· ≠ key) := by
  simp [keys, erase, filter, List.filter_map, Function.comp_def]

@[simp] theorem keys_modify (table : Table κ β) (key : κ) (change : β → β) :
    (table.modify key change).keys = table.keys :=
  keys_map _ _

@[simp] theorem keys_modifyAll (table : Table κ β) (keys : List κ) (change : β → β) :
    (table.modifyAll keys change).keys = table.keys := by
  unfold modifyAll
  induction keys generalizing table with
  | nil => rfl
  | cons key rest ih => rw [List.foldl_cons, ih, keys_modify]

/-- A new key goes to the end. -/
theorem entries_insert_of_not_mem {table : Table κ β} {key : κ} (absent : key ∉ table.keys)
    (value : β) : (table.insert key value).entries = table.entries ++ [(key, value)] := by
  have added : ∀ entries : List (κ × β), key ∉ entries.map Prod.fst →
      insertEntry key value entries = entries ++ [(key, value)] := by
    intro entries
    induction entries with
    | nil => exact fun _ => rfl
    | cons entry rest ih =>
      intro missing
      rw [List.map_cons, List.mem_cons, not_or] at missing
      rw [insertEntry, if_neg (Ne.symm missing.1), ih missing.2, List.cons_append]
  exact added table.entries absent

/-! ### Values -/

@[simp] theorem get?_empty (key : κ) : (∅ : Table κ β).get? key = none := rfl

theorem lookup_cons_ite (key first : κ) (value : β) (rest : List (κ × β)) :
    ((first, value) :: rest).lookup key = if key = first then some value else rest.lookup key := by
  by_cases same : key = first
  · simp [same]
  · have unequal : (key == first) = false := by simpa using same
    simp [List.lookup_cons, unequal, same]

theorem lookup_isSome_iff {entries : List (κ × β)} {key : κ} :
    (entries.lookup key).isSome ↔ key ∈ entries.map Prod.fst := by
  induction entries with
  | nil => simp
  | cons entry rest ih =>
    obtain ⟨first, value⟩ := entry
    by_cases same : key = first
    · simp [same]
    · simp [lookup_cons_ite, same, ih]

theorem mem_of_lookup {entries : List (κ × β)} {key : κ} {value : β}
    (found : entries.lookup key = some value) : (key, value) ∈ entries := by
  induction entries with
  | nil => simp at found
  | cons entry rest ih =>
    obtain ⟨first, stored⟩ := entry
    rw [lookup_cons_ite] at found
    split at found
    · rename_i same
      rw [same, Option.some.inj found]
      exact List.mem_cons_self
    · exact List.mem_cons_of_mem _ (ih found)

theorem lookup_of_mem {entries : List (κ × β)} (distinct : (entries.map Prod.fst).Nodup)
    {key : κ} {value : β} (member : (key, value) ∈ entries) :
    entries.lookup key = some value := by
  induction entries with
  | nil => exact absurd member List.not_mem_nil
  | cons entry rest ih =>
    obtain ⟨first, stored⟩ := entry
    obtain ⟨absent, later⟩ := List.nodup_cons.mp distinct
    rw [lookup_cons_ite]
    rcases List.mem_cons.mp member with here | there
    · obtain ⟨rfl, rfl⟩ := Prod.mk.inj here
      rw [if_pos rfl]
    · have different : key ≠ first := by
        rintro rfl
        exact absent (List.mem_map.mpr ⟨_, there, rfl⟩)
      rw [if_neg different, ih later there]

theorem get?_of_mem {table : Table κ β} {key : κ} {value : β}
    (member : (key, value) ∈ table.entries) : table.get? key = some value :=
  lookup_of_mem table.nodup member

theorem get?_eq_some_iff {table : Table κ β} {key : κ} {value : β} :
    table.get? key = some value ↔ (key, value) ∈ table.entries :=
  ⟨mem_of_lookup, get?_of_mem⟩

/-- The order of the entries has no effect on the values under the keys. -/
theorem get?_of_perm {table other : Table κ β} (permuted : other.entries.Perm table.entries)
    (key : κ) : other.get? key = table.get? key := by
  refine Option.ext fun value => ?_
  rw [get?_eq_some_iff, get?_eq_some_iff, permuted.mem_iff]

theorem mem_values_of_get? {table : Table κ β} {key : κ} {value : β}
    (found : table.get? key = some value) : value ∈ table.values :=
  List.mem_map.mpr ⟨(key, value), mem_of_lookup found, rfl⟩

theorem get?_isSome_iff {table : Table κ β} {key : κ} :
    (table.get? key).isSome ↔ key ∈ table.keys :=
  lookup_isSome_iff

theorem get?_eq_none_iff {table : Table κ β} {key : κ} :
    table.get? key = none ↔ key ∉ table.keys := by
  rw [← get?_isSome_iff]
  simp

theorem lookup_insertEntry (key other : κ) (value : β) (entries : List (κ × β)) :
    (insertEntry key value entries).lookup other =
      if other = key then some value else entries.lookup other := by
  induction entries with
  | nil => simp [insertEntry, lookup_cons_ite]
  | cons entry rest ih =>
    obtain ⟨first, found⟩ := entry
    by_cases present : first = key <;> by_cases same : other = key <;>
      by_cases here : other = first <;> simp_all [insertEntry, lookup_cons_ite]

theorem get?_insert (table : Table κ β) (key other : κ) (value : β) :
    (table.insert key value).get? other = if other = key then some value else table.get? other :=
  lookup_insertEntry key other value table.entries

@[simp] theorem get?_insert_self (table : Table κ β) (key : κ) (value : β) :
    (table.insert key value).get? key = some value := by
  simp [get?_insert]

theorem lookup_filter_ne (key other : κ) (entries : List (κ × β)) :
    (entries.filter fun entry => entry.1 ≠ key).lookup other =
      if other = key then none else entries.lookup other := by
  induction entries with
  | nil => simp
  | cons entry rest ih =>
    obtain ⟨first, found⟩ := entry
    rw [List.filter_cons, lookup_cons_ite]
    by_cases dropped : first = key
    · simp only [dropped, ne_eq, not_true_eq_false, decide_false, Bool.false_eq_true, if_false, ih]
      split <;> rfl
    · simp only [dropped, ne_eq, not_false_eq_true, decide_true, if_true, lookup_cons_ite, ih]
      by_cases same : other = key
      · have different : key ≠ first := fun equal => dropped equal.symm
        simp only [same, different, if_true, if_false]
      · simp only [same, if_false]

theorem get?_erase (table : Table κ β) (key other : κ) :
    (table.erase key).get? other = if other = key then none else table.get? other := by
  have entries := lookup_filter_ne key other table.entries
  simpa [get?, erase, filter] using entries

theorem lookup_map (change : κ → β → γ) (key : κ) (entries : List (κ × β)) :
    (entries.map fun entry => (entry.1, change entry.1 entry.2)).lookup key =
      (entries.lookup key).map (change key) := by
  induction entries with
  | nil => simp
  | cons entry rest ih =>
    obtain ⟨first, value⟩ := entry
    by_cases same : key = first
    · simp [same]
    · simp [lookup_cons_ite, same, ih]

@[simp] theorem get?_map (change : κ → β → γ) (table : Table κ β) (key : κ) :
    (table.map change).get? key = (table.get? key).map (change key) :=
  lookup_map change key table.entries

theorem lookup_filter (keep : κ → β → Bool) (key : κ) {entries : List (κ × β)}
    (distinct : (entries.map Prod.fst).Nodup) :
    (entries.filter fun entry => keep entry.1 entry.2).lookup key =
      (entries.lookup key).filter (keep key) := by
  induction entries with
  | nil => rfl
  | cons entry rest ih =>
    obtain ⟨first, value⟩ := entry
    obtain ⟨absent, later⟩ := List.nodup_cons.mp distinct
    rw [List.filter_cons]
    by_cases same : key = first
    · subst same
      -- a dropped entry leaves no other one under its key
      have none_left : rest.lookup key = none := by
        rw [← Option.not_isSome_iff_eq_none, lookup_isSome_iff]
        exact absent
      cases kept : keep key value with
      | true => simp [Option.filter, kept]
      | false => simp [Option.filter, kept, ih later, none_left]
    · cases keep first value <;> simp [lookup_cons_ite, same, ih later]

theorem get?_filter (keep : κ → β → Bool) (table : Table κ β) (key : κ) :
    (table.filter keep).get? key = (table.get? key).filter (keep key) :=
  lookup_filter keep key table.nodup

theorem get?_modify (table : Table κ β) (key other : κ) (change : β → β) :
    (table.modify key change).get? other =
      if other = key then (table.get? other).map change else table.get? other := by
  rw [modify, get?_map]
  by_cases same : other = key <;> simp [same]

/-- It makes no difference how often a key is listed, if a second change of its value makes none. -/
theorem get?_modifyAll (table : Table κ β) (keys : List κ) {change : β → β}
    (once : ∀ value, change (change value) = change value) (other : κ) :
    (table.modifyAll keys change).get? other =
      if other ∈ keys then (table.get? other).map change else table.get? other := by
  unfold modifyAll
  induction keys generalizing table with
  | nil => simp
  | cons key rest ih =>
    rw [List.foldl_cons, ih, get?_modify]
    by_cases same : other = key
    · by_cases again : other ∈ rest
      · rw [if_pos again, if_pos same, if_pos (List.mem_cons_of_mem _ again), Option.map_map]
        exact congrArg (Option.map · _) (funext once)
      · rw [if_neg again, if_pos same, if_pos (same ▸ List.mem_cons_self)]
    · simp [same]

end ExtensionHost.Table
