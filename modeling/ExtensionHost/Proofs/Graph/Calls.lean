/-
**Every call of the search finds marks, path and order in step, and the search ends.**

The search is defined with a bound on its path. The calls that it makes are listed here as data, so
that an invariant can be stated of each of them; that the bound is never felt is proved against the
same recursion without a bound.

* `Graph.Calls`: the calls that a topological order makes, at the nodes and from within each other.
* `Calls.ready`: each call is made in a valid search to whose path its node can be added, and the
  path has just as much room as the graph has other nodes.
* `Graph.ComesTo`: the outcome of the recursion without a bound, which is at most one.
* `Calls.comesTo`: the recursion without a bound ends at each call, with the outcome of the search.
* `Graph.InStep`: all that holds at a call.
* `calls_inStep`: so it is at every call, and the topological order is what the recursion comes to.
-/

import ExtensionHost.Proofs.Graph.DepthFirst
import ExtensionHost.Proofs.Graph.Representation

namespace ExtensionHost

open Text (Labelled)

section

variable {N : Type} [DecidableEq N] {graph : Graph N} {search : Search N} {node : N} {room : Nat}

/-- The place where the cycle of a pending node starts on the path. -/
theorem Search.Valid.exists_position (valid : search.Valid graph) (pending : node ∈ search.path) :
    ∃ start, search.path.reverse.findIdx? (· = node) = some start ∧
      (search.cycleAt node).path = search.path.reverse.drop start ++ [node] := by
  obtain ⟨inner, outer, shape, notInner⟩ := List.eq_append_cons_of_mem pending
  have notOuter : node ∉ outer := by
    have once := shape ▸ valid.path_nodup
    exact (List.nodup_cons.mp once.of_append_right).1
  have backwards : search.path.reverse = outer.reverse ++ node :: inner.reverse := by
    simp [shape]
  refine ⟨outer.length, ?_, ?_⟩
  · have absent : outer.reverse.findIdx? (· = node) = none := by
      rw [List.findIdx?_eq_none_iff]
      intro other member
      rw [decide_eq_false_iff_not]
      rintro rfl
      exact notOuter (List.mem_reverse.mp member)
    rw [backwards, List.findIdx?_append, absent]
    simp [List.findIdx?_cons]
  · rw [search.path_cycleAt shape notInner, backwards]
    simp

namespace Graph

/-! ### Calls -/

/-- The calls that a topological order makes: how many nodes may still be added to the path, the node,
and the state of the search. -/
inductive Calls (graph : Graph N) : (room : Nat) → N → Search N → Prop
  /-- The search is called at each node, once the calls at the nodes before it have ended. -/
  | root {before after : List N} {node : N} {search : Search N}
      (split : graph.nodes = before ++ node :: after)
      (ended : before.foldlM (fun search node => graph.visit graph.nodeCount node search) {} =
        .ok search) :
      graph.Calls graph.nodeCount node search
  /-- From a node that was not met before, it is called at each successor, once the calls at the
  successors before it have ended. -/
  | successor {room : Nat} {node next : N} {before after : List N} {search later : Search N}
      (call : graph.Calls (room + 1) node search) (unmarked : search.marks.get? node = none)
      (split : graph.successorsOf node = before ++ next :: after)
      (ended : before.foldlM (fun search next => graph.visit room next search)
        (search.enter node) = .ok later) :
      graph.Calls room next later

/-- What the search relies on when it is called at a node: the node can be added to the path, and the
path may grow by as many nodes as are left. -/
structure Ready (graph : Graph N) (room : Nat) (node : N) (search : Search N) : Prop where
  valid : search.Valid graph
  member : node ∈ graph.nodes
  leads : (node :: search.path).IsChain fun inner outer => graph.HasEdge outer inner
  room_eq : room + search.path.length = graph.nodeCount

theorem Ready.successor (closed : graph.Closed) (ready : graph.Ready (room + 1) node search)
    (unmarked : search.marks.get? node = none) {next : N} {before after : List N}
    {later : Search N} (split : graph.successorsOf node = before ++ next :: after)
    (ended : before.foldlM (fun search next => graph.visit room next search)
      (search.enter node) = .ok later) : graph.Ready room next later := by
  have edges : ∀ target ∈ before ++ next :: after, graph.HasEdge node target := by
    rw [← split]
    exact fun target member => member
  have room_eq := ready.room_eq
  have searched : graph.Continues (search.enter node) before
      (before.foldlM (fun search next => graph.visit room next search) (search.enter node)) := by
    refine visits_continue before (fun target member middle valid path_eq => ?_)
      (ready.valid.enter unmarked ready.member ready.leads)
    have edge := edges target (List.mem_append_left _ member)
    have same : middle.path = node :: search.path := path_eq
    refine visit_continues closed room valid ?_ (closed node target edge) ?_
    · rw [same, List.length_cons]
      omega
    · rw [same]
      exact List.isChain_cons_cons.mpr ⟨edge, ready.leads⟩
  rw [ended] at searched
  obtain ⟨valid, path_eq, -, -⟩ := searched
  have same : later.path = node :: search.path := path_eq
  have edge := edges next (List.mem_append_right _ List.mem_cons_self)
  refine ⟨valid, closed node next edge, ?_, ?_⟩
  · rw [same]
    exact List.isChain_cons_cons.mpr ⟨edge, ready.leads⟩
  · rw [same, List.length_cons]
    omega

theorem Calls.ready (closed : graph.Closed) (call : graph.Calls room node search) :
    graph.Ready room node search := by
  induction call with
  | @root before after node search split ended =>
    have known : before ⊆ graph.nodes := split ▸ List.subset_append_left _ _
    have searched := roots_continue closed known
    rw [ended] at searched
    obtain ⟨valid, path_eq, -, -⟩ := searched
    have none : search.path = [] := path_eq
    refine ⟨valid, split ▸ List.mem_append_right _ List.mem_cons_self, ?_, ?_⟩
    · rw [none]
      exact List.isChain_singleton node
    · rw [none]
      rfl
  | successor call unmarked split ended ih => exact ih.successor closed unmarked split ended

/-- Where there is no room, the node has been met. -/
theorem Ready.room_pos (ready : graph.Ready room node search)
    (unmarked : search.marks.get? node = none) : 0 < room := by
  by_contra full
  have room_eq := ready.room_eq
  have onPath := ready.valid.mem_path_of_full (by omega) ready.member
  rw [← ready.valid.pending_iff, unmarked] at onPath
  cases onPath

/-! ### The recursion without a bound -/

/-- What the search from several nodes comes to, one after the other and along paths of any length. -/
inductive ComesTo (graph : Graph N) : List N → Search N → Except (Cycle N) (Search N) → Prop
  /-- Nothing is left to do. -/
  | nil {search : Search N} : graph.ComesTo [] search (.ok search)
  /-- The first node is done. -/
  | done {node : N} {rest : List N} {search : Search N} {outcome : Except (Cycle N) (Search N)}
      (marked : search.marks.get? node = some .done) (others : graph.ComesTo rest search outcome) :
      graph.ComesTo (node :: rest) search outcome
  /-- The first node is on the path. -/
  | pending {node : N} {rest : List N} {search : Search N}
      (marked : search.marks.get? node = some .pending) :
      graph.ComesTo (node :: rest) search (.error (search.cycleAt node))
  /-- The first node is met, and all below it can be finished. -/
  | finished {node : N} {rest : List N} {search last : Search N}
      {outcome : Except (Cycle N) (Search N)} (unmarked : search.marks.get? node = none)
      (below : graph.ComesTo (graph.successorsOf node) (search.enter node) (.ok last))
      (others : graph.ComesTo rest (last.leave node) outcome) :
      graph.ComesTo (node :: rest) search outcome
  /-- The first node is met, and there is a cycle below it. -/
  | failed {node : N} {rest : List N} {search : Search N} {cycle : Cycle N}
      (unmarked : search.marks.get? node = none)
      (below : graph.ComesTo (graph.successorsOf node) (search.enter node) (.error cycle)) :
      graph.ComesTo (node :: rest) search (.error cycle)

namespace ComesTo

variable {nodes rest : List N} {middle : Search N} {cycle : Cycle N}
  {outcome other : Except (Cycle N) (Search N)}

/-- There is at most one outcome. -/
theorem unique (first : graph.ComesTo nodes search outcome)
    (second : graph.ComesTo nodes search other) : other = outcome := by
  induction first generalizing other with
  | nil =>
    cases second
    rfl
  | done marked _ ih => cases second <;> simp_all
  | pending marked => cases second <;> simp_all
  | finished unmarked _ _ below_ih others_ih =>
    cases second with
    | finished _ below others =>
      cases below_ih below
      exact others_ih others
    | failed _ below => cases below_ih below
    | done marked => simp_all
    | pending marked => simp_all
  | failed unmarked _ below_ih =>
    cases second with
    | finished _ below _ => cases below_ih below
    | failed _ below => exact below_ih below
    | done marked => simp_all
    | pending marked => simp_all

theorem cons_ok (first : graph.ComesTo [node] search (.ok middle))
    (others : graph.ComesTo rest middle outcome) : graph.ComesTo (node :: rest) search outcome := by
  cases first with
  | done marked last =>
    cases last
    exact .done marked others
  | finished unmarked below last =>
    cases last
    exact .finished unmarked below others

theorem cons_error (first : graph.ComesTo [node] search (.error cycle)) :
    graph.ComesTo (node :: rest) search (.error cycle) := by
  cases first with
  | done marked last => cases last
  | pending marked => exact .pending marked
  | finished unmarked below last => cases last
  | failed unmarked below => exact .failed unmarked below

/-- Searches that come to their outcomes one by one come to them together. -/
theorem foldlM {descend : N → Search N → Except (Cycle N) (Search N)} {targets : List N}
    (each : ∀ before target after later, targets = before ++ target :: after →
      before.foldlM (fun search target => descend target search) search = .ok later →
      graph.ComesTo [target] later (descend target later)) :
    graph.ComesTo targets search
      (targets.foldlM (fun search target => descend target search) search) := by
  induction targets generalizing search with
  | nil => exact .nil
  | cons target rest ih =>
    have first := each [] target rest search rfl rfl
    rw [List.foldlM_cons]
    cases reached : descend target search with
    | error cycle =>
      rw [reached] at first
      exact first.cons_error
    | ok middle =>
      rw [reached] at first
      refine first.cons_ok (ih fun before next after later split ended => ?_)
      refine each (target :: before) next after later (by rw [split, List.cons_append]) ?_
      rw [List.foldlM_cons, reached]
      exact ended

end ComesTo

/-- The recursion without a bound ends at each call, and comes to what the search comes to. -/
theorem Calls.comesTo (closed : graph.Closed) (call : graph.Calls room node search) :
    graph.ComesTo [node] search (graph.visit room node search) := by
  induction room generalizing node search with
  | zero =>
    cases marked : search.marks.get? node with
    | none => exact absurd ((call.ready closed).room_pos marked) (Nat.lt_irrefl 0)
    | some mark =>
      unfold visit explore
      rw [marked]
      cases mark with
      | done => exact .done marked .nil
      | pending => exact .pending marked
  | succ room ih =>
    unfold visit explore
    cases marked : search.marks.get? node with
    | some mark =>
      cases mark with
      | done => exact .done marked .nil
      | pending => exact .pending marked
    | none =>
      have below : graph.ComesTo (graph.successorsOf node) (search.enter node)
          ((graph.successorsOf node).foldlM (fun search next => graph.visit room next search)
            (search.enter node)) :=
        .foldlM fun before next after later split ended =>
          ih (.successor call marked split ended)
      show graph.ComesTo [node] search
        ((graph.successorsOf node).foldlM (fun search next => graph.visit room next search)
          (search.enter node) >>= fun finished => pure (finished.leave node))
      cases ended : (graph.successorsOf node).foldlM
          (fun search next => graph.visit room next search) (search.enter node) with
      | error cycle =>
        rw [ended] at below
        exact .failed marked below
      | ok finished =>
        rw [ended] at below
        exact .finished marked below .nil

/-! ### All that holds at a call -/

/-- What holds whenever the search is called at a node. -/
structure InStep (graph : Graph N) (room : Nat) (node : N) (search : Search N) : Prop where
  /-- The path repeats no node. -/
  path_nodup : search.path.Nodup
  /-- Each node of the path leads to the next, and the last one to the node. -/
  path_chain : (node :: search.path).IsChain fun inner outer => graph.HasEdge outer inner
  /-- The pending nodes are those on the path. -/
  pending_iff : ∀ other, search.marks.get? other = some .pending ↔ other ∈ search.path
  /-- The done nodes are those in the order. -/
  done_iff : ∀ other, search.marks.get? other = some .done ↔ other ∈ search.order
  /-- The order repeats no node. -/
  order_nodup : search.order.Nodup
  /-- A done node leads to done nodes only. -/
  done_of_hasEdge : ∀ source target, search.marks.get? source = some .done →
    graph.HasEdge source target → search.marks.get? target = some .done
  /-- The path is not longer than the graph has nodes. -/
  length_path : search.path.length ≤ graph.nodeCount
  /-- Neither is it when the node is added to it, and so the search is not cut short there. -/
  length_enter : search.marks.get? node = none →
    (search.enter node).path.length ≤ graph.nodeCount ∧ 0 < room
  /-- A pending node is found on the path, and the cycle goes on from there. -/
  position : search.marks.get? node = some .pending →
    ∃ start, search.path.reverse.findIdx? (· = node) = some start ∧
      (search.cycleAt node).path = search.path.reverse.drop start ++ [node]
  /-- Without a bound the recursion ends as well, in the same way. -/
  comesTo_iff : ∀ outcome, graph.ComesTo [node] search outcome ↔
    outcome = graph.visit room node search

theorem Calls.inStep (closed : graph.Closed) (call : graph.Calls room node search) :
    graph.InStep room node search := by
  have ready := call.ready closed
  have valid := ready.valid
  have room_eq := ready.room_eq
  have ends := call.comesTo closed
  exact {
    path_nodup := valid.path_nodup
    path_chain := ready.leads
    pending_iff := valid.pending_iff
    done_iff := valid.done_iff
    order_nodup := valid.order_nodup
    done_of_hasEdge := by
      intro source target done edge
      have before := valid.order_sorted source ((valid.done_iff source).mp done) target edge
      exact (valid.done_iff target).mpr (before.subset List.mem_cons_self)
    length_path := by omega
    length_enter := by
      intro unmarked
      have some_room := ready.room_pos unmarked
      have grown : (search.enter node).path.length = search.path.length + 1 := rfl
      omega
    position := fun pending => valid.exists_position ((valid.pending_iff node).mp pending)
    comesTo_iff := by
      intro outcome
      constructor
      · exact ends.unique
      · rintro rfl
        exact ends }

/-- **Every call of the search.** Of whatever changes make of an empty graph, each call that the
topological order makes finds marks, path and order in step, and ends; and the order, or the cycle, is
what the recursion comes to without a bound on its path. -/
theorem calls_inStep [Labelled N] (allowsSelfLoops : Bool) (changes : List (Change N)) :
    (∀ room node search, (ofChanges allowsSelfLoops changes).Calls room node search →
      (ofChanges allowsSelfLoops changes).InStep room node search) ∧
    ∃ outcome, (ofChanges allowsSelfLoops changes).ComesTo
        (ofChanges allowsSelfLoops changes).nodes {} outcome ∧
      (ofChanges allowsSelfLoops changes).topologicalOrder = outcome.map Search.order := by
  have closed := closed_ofChanges (N := N) allowsSelfLoops changes
  generalize ofChanges allowsSelfLoops changes = graph at closed ⊢
  refine ⟨fun room node search call => call.inStep closed, _, .foldlM
    (fun before target after later split ended => (Calls.root split ended).comesTo closed), ?_⟩
  unfold topologicalOrder
  cases graph.nodes.foldlM (fun search node => graph.visit graph.nodeCount node search)
    ({} : Search N) <;> rfl

end Graph

end

/-! ### A call in the middle of a search -/

namespace Midway

/-- The third node leads to the second, which the search has finished by then, and to the fourth, from
which it comes back. -/
def changes : List (Graph.Change String) :=
  [.putEdge "a" "b", .putEdge "a" "c", .putEdge "c" "b", .putEdge "c" "d", .putEdge "d" "c"]

def graph : Graph String :=
  .ofChanges false changes

/-- The search is called at the third node again, with three of the four nodes on its path and the
other one done. The node is found on the path, where the cycle starts. -/
theorem inStep_midway : ∃ search, graph.Calls 1 "c" search ∧ search.path = ["d", "c", "a"] ∧
    search.order = ["b"] ∧ graph.InStep 1 "c" search ∧
    ∃ start, ["a", "c", "d"].findIdx? (· = "c") = some start ∧
      (search.cycleAt "c").path = ["a", "c", "d"].drop start ++ ["c"] := by
  have first : graph.Calls 4 "a" {} :=
    .root (show graph.nodes = [] ++ "a" :: ["b", "c", "d"] from rfl) rfl
  have second := first.successor rfl (show graph.successorsOf "a" = ["b"] ++ "c" :: [] from rfl) rfl
  have third := second.successor rfl (show graph.successorsOf "c" = ["b"] ++ "d" :: [] from rfl) rfl
  have call := third.successor rfl (show graph.successorsOf "d" = [] ++ "c" :: [] from rfl) rfl
  have inStep := (Graph.calls_inStep false changes).1 1 "c" _ call
  exact ⟨_, call, rfl, rfl, inStep, inStep.position rfl⟩

end Midway

end ExtensionHost
