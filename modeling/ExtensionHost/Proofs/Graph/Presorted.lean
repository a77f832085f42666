/-
**Nodes that come after their successors already are left in their order.**

The search then meets every node with all its successors finished, so that it goes nowhere from
there and finishes the node next.

* `Precedes.mem_of_nodup`: what stands before an element is in the part of the list before it.
* `Search.Lists`: some nodes are finished, in this order, and no others were met.
* `visit_of_ready`: the search below a node whose successors are finished.
* `topologicalOrder_of_presorted`: the order of the nodes is the one in which they were added.
-/

import ExtensionHost.Proofs.Graph.Circular
import ExtensionHost.Proofs.Graph.Changes
import Mathlib.Data.List.Nodup

namespace ExtensionHost

variable {N : Type}

theorem Precedes.mem_of_nodup {before after : List N} {first second : N}
    (once : (before ++ second :: after).Nodup)
    (precedes : Precedes (before ++ second :: after) first second) : first ∈ before := by
  obtain ⟨upTo, beyond, split, low, high⟩ := Precedes.iff_split.mp precedes
  rw [split] at once
  rcases List.append_eq_append_iff.mp split with ⟨between, rfl, shared⟩ | ⟨between, rfl, -⟩
  · cases between with
    | nil => simpa using low
    | cons next rest =>
      -- the second element would stand on both sides of the split
      obtain ⟨rfl, -⟩ := List.cons.inj shared
      exact absurd high (List.disjoint_of_nodup_append once (by simp))
  · exact List.mem_append_left _ low

/-- Steps that change nothing. -/
theorem foldlM_of_idle {ε β : Type} (step : β → N → Except ε β) {state : β} {targets : List N}
    (idle : ∀ target ∈ targets, step state target = .ok state) :
    targets.foldlM step state = .ok state := by
  induction targets with
  | nil => rfl
  | cons first rest ih =>
    rw [List.foldlM_cons, idle first List.mem_cons_self]
    exact ih fun target member => idle target (List.mem_cons_of_mem _ member)

variable [DecidableEq N] {graph : Graph N} {search : Search N} {node : N}

/-- The nodes are finished, in this order, and the search has met no others. -/
structure Search.Lists (search : Search N) (nodes : List N) : Prop where
  order : search.order = nodes
  marks : ∀ node, search.marks.get? node = if node ∈ nodes then some .done else none

theorem Search.Lists.finish {nodes : List N} (lists : search.Lists nodes) (node : N) :
    ((search.enter node).leave node).Lists (nodes ++ [node]) where
  order := congrArg (· ++ [node]) lists.order
  marks other := by
    show ((search.marks.insert node .pending).insert node .done).get? other = _
    by_cases same : other = node
    · simp [same]
    · simp [Table.get?_insert, same, lists.marks]

namespace Graph

theorem visit_of_done (done : search.marks.get? node = some .done) (room : Nat) :
    graph.visit room node search = .ok search := by
  cases room <;> simp [visit, explore, done]

/-- When all successors are finished, the node is finished next. -/
theorem visit_of_ready (unmarked : search.marks.get? node = none)
    (ready : ∀ target, graph.HasEdge node target → search.marks.get? target = some .done)
    (room : Nat) : graph.visit room node search = .ok ((search.enter node).leave node) := by
  have finished : ∀ target ∈ graph.successorsOf node,
      (search.enter node).marks.get? target = some .done := by
    intro target edge
    have other : target ≠ node := by
      rintro rfl
      cases unmarked.symm.trans (ready target edge)
    simp [Search.enter, Table.get?_insert, other, ready target edge]
  have passed : ∀ descend : N → Search N → Except (Cycle N) (Search N),
      (∀ target ∈ graph.successorsOf node,
        descend target (search.enter node) = .ok (search.enter node)) →
      graph.explore descend node search = .ok ((search.enter node).leave node) := by
    intro descend idle
    unfold explore
    rw [unmarked]
    dsimp only
    rw [foldlM_of_idle (fun search next => descend next search) idle]
    rfl
  cases room with
  | zero => exact passed _ fun _ _ => rfl
  | succ room => exact passed _ fun target edge => visit_of_done (finished target edge) room

/-- **What is in order stays in order.** If every node was added after all its successors, the
topological order is the one in which the nodes were added. -/
theorem topologicalOrder_of_presorted
    (presorted : ∀ source target, graph.HasEdge source target →
      Precedes graph.nodes target source) :
    graph.topologicalOrder = .ok graph.nodes := by
  have onwards : ∀ (rest listed : List N) (search : Search N), graph.nodes = listed ++ rest →
      search.Lists listed → ∃ later : Search N, later.Lists graph.nodes ∧
        rest.foldlM (fun search node => graph.visit graph.nodeCount node search) search =
          .ok later := by
    intro rest
    induction rest with
    | nil =>
      intro listed search split lists
      rw [List.append_nil] at split
      exact ⟨search, split ▸ lists, rfl⟩
    | cons node rest ih =>
      intro listed search split lists
      have once : (listed ++ node :: rest).Nodup := split ▸ graph.links.nodup_keys
      have unmarked : search.marks.get? node = none := by
        rw [lists.marks, if_neg fun member =>
          List.disjoint_of_nodup_append once member List.mem_cons_self]
      have ready : ∀ target, graph.HasEdge node target →
          search.marks.get? target = some .done := by
        intro target edge
        rw [lists.marks, if_pos (Precedes.mem_of_nodup once (split ▸ presorted node target edge))]
      rw [List.foldlM_cons, visit_of_ready unmarked ready]
      exact ih (listed ++ [node]) _ (by rw [split, List.append_assoc]; rfl) (lists.finish node)
  obtain ⟨later, lists, reached⟩ := onwards graph.nodes [] {} rfl ⟨rfl, fun _ => rfl⟩
  unfold topologicalOrder
  rw [reached]
  exact congrArg Except.ok lists.order

end Graph

end ExtensionHost
