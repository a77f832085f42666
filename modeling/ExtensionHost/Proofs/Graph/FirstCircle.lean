/-
**The cycle that is reported lies beyond the first node from which one can be reached.**

The search goes from the nodes in order. What is finished leads to no circle, so that the search
fails below the first node that does; and then all that is on the path was reached from there.

* `ReachesCircle`: some node that leads back to itself can be reached.
* `foldlM_eq_error`: what fails on a list has been done on a first part of it.
* `path_of_visit`: a search that ends leaves the path as it was.
* `mem_cycle_of_visit`: a cycle lies on the path, or beyond the node whose visit has met it.
* `Search.Valid.not_reachesCircle`: no circle can be reached from a finished node.
* `cycle_beyond_first`: the cycle of a topological order that fails.
-/

import ExtensionHost.Proofs.Graph.DepthFirst
import ExtensionHost.Proofs.Graph.Representation

namespace ExtensionHost

open Relation (ReflTransGen TransGen)
open Text (Labelled)

/-- Some element that leads back to itself can be reached, in any number of steps. -/
def ReachesCircle {N : Type} (leads : N → N → Prop) (start : N) : Prop :=
  ∃ node, ReflTransGen leads start node ∧ TransGen leads node node

/-- What fails on a list has been done on a first part of it, and fails at the element after it. -/
theorem foldlM_eq_error {ε α β : Type} {step : β → α → Except ε β} {list : List α} {start : β}
    {error : ε} (failed : list.foldlM step start = .error error) :
    ∃ before element after state, list = before ++ element :: after ∧
      before.foldlM step start = .ok state ∧ step state element = .error error := by
  induction list generalizing start with
  | nil => cases failed
  | cons first rest ih =>
    rw [List.foldlM_cons] at failed
    cases reached : step start first with
    | error early =>
      rw [reached] at failed
      cases failed
      exact ⟨[], first, rest, start, rfl, rfl, reached⟩
    | ok middle =>
      rw [reached] at failed
      obtain ⟨before, element, after, state, rfl, done, fails⟩ := ih failed
      refine ⟨first :: before, element, after, state, rfl, ?_, fails⟩
      rw [List.foldlM_cons, reached]
      exact done

/-- Steps that keep something keep it together. -/
theorem foldlM_keeps {ε α β γ : Type} {step : β → α → Except ε β} (part : β → γ)
    (keeps : ∀ {state element next}, step state element = .ok next → part next = part state)
    {list : List α} {start last : β} (ended : list.foldlM step start = .ok last) :
    part last = part start := by
  induction list generalizing start with
  | nil =>
    cases ended
    rfl
  | cons first rest ih =>
    rw [List.foldlM_cons] at ended
    cases reached : step start first with
    | error error =>
      rw [reached] at ended
      cases ended
    | ok middle =>
      rw [reached] at ended
      exact (ih ended).trans (keeps reached)

section

variable {N : Type} [DecidableEq N] {graph : Graph N} {search later : Search N} {node : N}
  {cycle : Cycle N}

theorem Search.mem_cycleAt {met : N} (member : met ∈ (search.cycleAt node).path) :
    met = node ∨ met ∈ search.path := by
  have listed : met ∈ node :: (search.path.takeWhile (· ≠ node)).reverse ++ [node] := member
  simp only [List.cons_append, List.mem_cons, List.mem_append, List.mem_reverse,
    List.not_mem_nil, or_false] at listed
  rcases listed with rfl | onPath | rfl
  · exact .inl rfl
  · exact .inr ((List.takeWhile_sublist _).subset onPath)
  · exact .inl rfl

namespace Graph

variable {descend : N → Search N → Except (Cycle N) (Search N)}

/-! ### The path of a search that ends -/

theorem path_of_explore
    (keeps : ∀ {node : N} {search later : Search N}, descend node search = .ok later →
      later.path = search.path) (ended : graph.explore descend node search = .ok later) :
    later.path = search.path := by
  unfold explore at ended
  cases marked : search.marks.get? node with
  | some mark =>
    rw [marked] at ended
    cases mark with
    | done =>
      cases ended
      rfl
    | pending => cases ended
  | none =>
    rw [marked] at ended
    dsimp only at ended
    cases below : (graph.successorsOf node).foldlM (fun search next => descend next search)
        (search.enter node) with
    | error cycle =>
      rw [below] at ended
      cases ended
    | ok finished =>
      rw [below] at ended
      have kept := foldlM_keeps Search.path keeps below
      cases ended
      show finished.path.tail = search.path
      rw [kept]
      rfl

theorem path_of_visit {room : Nat} (ended : graph.visit room node search = .ok later) :
    later.path = search.path := by
  induction room generalizing node search later with
  | zero =>
    refine path_of_explore (fun same => ?_) ended
    cases same
    rfl
  | succ room ih => exact path_of_explore ih ended

/-! ### The cycle of a search that fails -/

theorem mem_cycle_of_explore
    (keeps : ∀ {node : N} {search later : Search N}, descend node search = .ok later →
      later.path = search.path)
    (met_below : ∀ {node : N} {search : Search N}, descend node search = .error cycle →
      ∀ met ∈ cycle.path, met ∈ search.path ∨ ReflTransGen graph.HasEdge node met)
    (failed : graph.explore descend node search = .error cycle) :
    ∀ met ∈ cycle.path, met ∈ search.path ∨ ReflTransGen graph.HasEdge node met := by
  intro met member
  unfold explore at failed
  cases marked : search.marks.get? node with
  | some mark =>
    rw [marked] at failed
    cases mark with
    | done => cases failed
    | pending =>
      cases failed
      rcases Search.mem_cycleAt member with rfl | onPath
      · exact .inr .refl
      · exact .inl onPath
  | none =>
    rw [marked] at failed
    dsimp only at failed
    cases below : (graph.successorsOf node).foldlM (fun search next => descend next search)
        (search.enter node) with
    | ok finished =>
      rw [below] at failed
      cases failed
    | error early =>
      rw [below] at failed
      cases failed
      -- the successors before the one that fails have left the path alone
      obtain ⟨before, target, after, middle, split, done, fails⟩ := foldlM_eq_error below
      have edge : graph.HasEdge node target := by
        unfold HasEdge
        rw [split]
        exact List.mem_append_right _ List.mem_cons_self
      have path_eq : middle.path = node :: search.path := foldlM_keeps Search.path keeps done
      rcases met_below fails met member with onPath | reached
      · rw [path_eq, List.mem_cons] at onPath
        rcases onPath with rfl | onPath
        · exact .inr .refl
        · exact .inl onPath
      · exact .inr (.head edge reached)

/-- The nodes of a cycle were on the path before, or are reached from the node whose visit has met
it. -/
theorem mem_cycle_of_visit {room : Nat} (failed : graph.visit room node search = .error cycle) :
    ∀ met ∈ cycle.path, met ∈ search.path ∨ ReflTransGen graph.HasEdge node met := by
  induction room generalizing node search with
  | zero =>
    refine mem_cycle_of_explore (fun same => ?_) (fun impossible => ?_) failed
    · cases same
      rfl
    · cases impossible
  | succ room ih => exact mem_cycle_of_explore path_of_visit ih failed

end Graph

/-! ### Finished nodes -/

theorem Search.Valid.not_reachesCircle (valid : search.Valid graph) {source : N}
    (finished : source ∈ search.order) : ¬ ReachesCircle graph.HasEdge source := by
  rintro ⟨node, path, circle⟩
  have beyond {source target : N} := @precedes_of_transGen N graph.HasEdge search.order
    valid.order_nodup valid.order_sorted source target
  have member : node ∈ search.order := by
    rcases Relation.reflTransGen_iff_eq_or_transGen.mp path with rfl | further
    · exact finished
    · exact List.Sublist.subset (beyond finished further) List.mem_cons_self
  exact List.nodup_iff_sublist.mp valid.order_nodup node (beyond member circle)

namespace Graph

/-- In a closed graph whose topological order fails, the search has finished the first nodes, and it
fails below the next one. -/
theorem exists_of_topologicalOrder (closed : graph.Closed)
    (failed : graph.topologicalOrder = .error cycle) :
    ∃ before root after search, graph.nodes = before ++ root :: after ∧ search.Valid graph ∧
      search.path = [] ∧ (∀ earlier ∈ before, earlier ∈ search.order) ∧
      graph.visit graph.nodeCount root search = .error cycle := by
  unfold topologicalOrder at failed
  cases ended : graph.nodes.foldlM (fun search node => graph.visit graph.nodeCount node search)
      ({} : Search N) with
  | ok search =>
    rw [ended] at failed
    cases failed
  | error early =>
    rw [ended] at failed
    cases failed
    obtain ⟨before, root, after, search, split, done, fails⟩ := foldlM_eq_error ended
    have known : before ⊆ graph.nodes := split ▸ List.subset_append_left _ _
    have searched := roots_continue closed known
    rw [done] at searched
    obtain ⟨valid, path_eq, -, finished⟩ := searched
    exact ⟨before, root, after, search, split, valid, path_eq, finished, fails⟩

/-- **The cycle that is reported.** Of whatever changes make of an empty graph, a topological order
that fails tells of a closed path along the edges, which meets no node twice but its end. All its
nodes are reached from the first node, in the order in which the nodes were added, from which any
circle is reached. -/
theorem cycle_beyond_first [Labelled N] {allowsSelfLoops : Bool} {changes : List (Change N)}
    (failed : (ofChanges allowsSelfLoops changes).topologicalOrder = .error cycle) :
    2 ≤ cycle.path.length ∧ ClosedPath (ofChanges allowsSelfLoops changes).HasEdge cycle.path ∧
      ∃ before root after, (ofChanges allowsSelfLoops changes).nodes = before ++ root :: after ∧
        (∀ earlier ∈ before, ¬ ReachesCircle (ofChanges allowsSelfLoops changes).HasEdge earlier) ∧
        ReachesCircle (ofChanges allowsSelfLoops changes).HasEdge root ∧
        ∀ node ∈ cycle.path,
          ReflTransGen (ofChanges allowsSelfLoops changes).HasEdge root node := by
  have closed := closed_ofChanges (N := N) allowsSelfLoops changes
  generalize ofChanges allowsSelfLoops changes = graph at closed failed ⊢
  obtain ⟨before, root, after, search, split, valid, path_eq, finished, fails⟩ :=
    exists_of_topologicalOrder closed failed
  have closedPath : ClosedPath graph.HasEdge cycle.path := by
    have continues := visit_continues closed graph.nodeCount valid (Nat.le_add_right _ _)
      (split ▸ List.mem_append_right _ List.mem_cons_self : root ∈ graph.nodes)
      (path_eq ▸ List.isChain_singleton root)
    rw [fails] at continues
    exact continues
  have reached : ∀ node ∈ cycle.path, ReflTransGen graph.HasEdge root node := by
    intro node member
    rcases mem_cycle_of_visit fails node member with onPath | reached
    · rw [path_eq] at onPath
      exact absurd onPath List.not_mem_nil
    · exact reached
  obtain ⟨first, rest, shape, -, chain⟩ := id closedPath
  have circle : ReachesCircle graph.HasEdge root :=
    ⟨first, reached first (by simp [shape]), transGen_of_isChain first first rest (shape ▸ chain)⟩
  refine ⟨by simp [shape], closedPath, before, root, after, split, fun earlier member => ?_,
    circle, reached⟩
  exact valid.not_reachesCircle (finished earlier member)

end Graph

end

/-! ### A circle that is met on a detour -/

namespace Detour

/-- The first search leads nowhere, the second one comes to a circle on its way. Another circle is
farther on, whose nodes were there before and have been removed in between. -/
def changes : List (Graph.Change String) :=
  [.putEdge "e" "f", .removeNode "e", .removeNode "f", .putEdge "a" "b", .putEdge "c" "b",
    .putEdge "c" "d", .putEdge "d" "g", .putEdge "g" "d", .putEdge "e" "f", .putEdge "f" "e"]

def graph : Graph String :=
  .ofChanges false changes

/-- The circle is reported without the way to it, and the node from which it was reached is the first
from which any is. -/
theorem cycle_detour :
    graph.nodes = ["a", "b", "c", "d", "g", "e", "f"] ∧
      graph.topologicalOrder = .error ⟨["d", "g", "d"]⟩ ∧
      ClosedPath graph.HasEdge ["d", "g", "d"] ∧
      ∃ before root after, graph.nodes = before ++ root :: after ∧
        (∀ earlier ∈ before, ¬ ReachesCircle graph.HasEdge earlier) ∧
        ReachesCircle graph.HasEdge root ∧
        ∀ node ∈ ["d", "g", "d"], Relation.ReflTransGen graph.HasEdge root node := by
  have failed : graph.topologicalOrder = .error ⟨["d", "g", "d"]⟩ := by decide
  obtain ⟨-, closed, beyond⟩ := Graph.cycle_beyond_first failed
  exact ⟨by decide, failed, closed, beyond⟩

end Detour

end ExtensionHost
