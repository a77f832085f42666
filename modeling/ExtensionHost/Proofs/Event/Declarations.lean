/-
**Declarations make a hierarchy exactly when they are valid, and else the first fault is reported.**

* `Declaration.Parentage`: the parents that types declare, as a relation.
* `Declaration.Valid`: no type is declared twice, every parent is declared, and no type is its own
  ancestor.
* `Declaration.FirstRepeated`, `Declaration.FirstFaulty`: the declaration that repeats an earlier
  one, and the parent that is not declared or is the type itself, the first of each.
* `tabulate_cases`, `parentGraph_eq`: the declarations as a table, and the table as a graph.
* `build_cases`: the hierarchy, or the error.
* `build_decides_validity`: which of them, for any declarations.
-/

import ExtensionHost.Event.Hierarchy
import ExtensionHost.Proofs.Graph.Order

namespace ExtensionHost

/-! ### Valid declarations -/

namespace Declaration

/-- The declared types, in order. -/
def declaredTypes (declarations : List Declaration) : List EventType :=
  declarations.map Declaration.eventType

/-- One type declares another as its parent. -/
def Parentage (declarations : List Declaration) (child parent : EventType) : Prop :=
  ∃ declaration ∈ declarations, declaration.eventType = child ∧ parent ∈ declaration.parents

/-- Each type with each of its parents, in order. -/
def links (declarations : List Declaration) : List (EventType × EventType) :=
  declarations.flatMap fun declaration => declaration.parents.map (declaration.eventType, ·)

/-- The declarations of which a hierarchy can be made. -/
structure Valid (declarations : List Declaration) : Prop where
  /-- No type is declared twice. -/
  once : (declaredTypes declarations).Nodup
  /-- Every parent is declared. -/
  parent_mem : ∀ child parent, Parentage declarations child parent →
    parent ∈ declaredTypes declarations
  /-- No type is its own ancestor. -/
  not_circular : ¬ Circular (Parentage declarations)

/-- The first declaration that repeats the type of an earlier one declares this type. -/
def FirstRepeated (declarations : List Declaration) (eventType : EventType) : Prop :=
  ∃ before declaration after, declarations = before ++ declaration :: after ∧
    declaration.eventType = eventType ∧ (declaredTypes before).Nodup ∧
      eventType ∈ declaredTypes before

/-- The parent is not declared, or it is the type itself. -/
def Faulty (declarations : List Declaration) (link : EventType × EventType) : Prop :=
  link.2 ∉ declaredTypes declarations ∨ link.1 = link.2

instance (declarations : List Declaration) (link : EventType × EventType) :
    Decidable (Faulty declarations link) :=
  inferInstanceAs (Decidable (_ ∨ _))

/-- Of the faulty parents, the first in the order of declarations and then of parents. -/
def FirstFaulty (declarations : List Declaration) (child parent : EventType) : Prop :=
  ∃ before after, links declarations = before ++ (child, parent) :: after ∧
    Faulty declarations (child, parent) ∧ ∀ earlier ∈ before, ¬ Faulty declarations earlier

/-- The error about a faulty parent. -/
def fault (declarations : List Declaration) (link : EventType × EventType) : ConfigurationError :=
  if link.2 ∈ declaredTypes declarations then .cyclicHierarchy [link.1, link.2]
  else .unknownParent link.1 link.2

variable {declarations : List Declaration} {child parent eventType : EventType}

theorem mem_links : (child, parent) ∈ links declarations ↔ Parentage declarations child parent := by
  simp only [links, Parentage, List.mem_flatMap, List.mem_map, Prod.mk.injEq]
  constructor
  · rintro ⟨declaration, declared, other, member, rfl, rfl⟩
    exact ⟨declaration, declared, rfl, member⟩
  · rintro ⟨declaration, declared, rfl, member⟩
    exact ⟨declaration, declared, parent, member, rfl, rfl⟩

theorem Parentage.child_mem (declares : Parentage declarations child parent) :
    child ∈ declaredTypes declarations := by
  obtain ⟨declaration, declared, rfl, -⟩ := declares
  exact List.mem_map_of_mem declared

theorem find?_faulty_eq_some_iff :
    (links declarations).find? (Faulty declarations ·) = some (child, parent) ↔
      FirstFaulty declarations child parent := by
  rw [List.find?_eq_some_iff_append]
  simp only [decide_eq_true_iff, Bool.not_eq_true', decide_eq_false_iff_not]
  constructor
  · rintro ⟨faulty, before, after, split, earlier⟩
    exact ⟨before, after, split, faulty, earlier⟩
  · rintro ⟨before, after, split, faulty, earlier⟩
    exact ⟨faulty, before, after, split, earlier⟩

/-! ### What is not valid -/

theorem FirstRepeated.not_valid (repeated : FirstRepeated declarations eventType) :
    ¬ Valid declarations := by
  obtain ⟨before, declaration, after, rfl, rfl, -, known⟩ := repeated
  intro valid
  have once := valid.once
  unfold declaredTypes at once known
  rw [List.map_append, List.map_cons] at once
  exact List.disjoint_of_nodup_append once known List.mem_cons_self

theorem FirstFaulty.parentage (faulty : FirstFaulty declarations child parent) :
    Parentage declarations child parent := by
  obtain ⟨before, after, split, -, -⟩ := faulty
  refine mem_links.mp ?_
  rw [split]
  exact List.mem_append_right _ List.mem_cons_self

theorem FirstFaulty.not_valid (faulty : FirstFaulty declarations child parent) :
    ¬ Valid declarations := by
  intro valid
  have declares := faulty.parentage
  obtain ⟨-, -, -, unknown | own, -⟩ := faulty
  · exact unknown (valid.parent_mem child parent declares)
  · obtain rfl : child = parent := own
    exact valid.not_circular ⟨child, .single declares⟩

end Declaration

namespace Hierarchy

open Declaration

variable {declarations : List Declaration}

/-! ### The table -/

/-- The table with one more declaration, unless its type is there already. -/
def addDeclaration (table : Table EventType (List EventType)) (declaration : Declaration) :
    Except ConfigurationError (Table EventType (List EventType)) :=
  if table.contains declaration.eventType then
    .error (.duplicateEventType declaration.eventType)
  else .ok (table.insert declaration.eventType declaration.parents)

/-- What the table holds of a declaration. -/
def entry (declaration : Declaration) : EventType × List EventType :=
  (declaration.eventType, declaration.parents)

theorem keys_of_entries {table : Table EventType (List EventType)}
    (entries : table.entries = declarations.map entry) :
    table.keys = declaredTypes declarations := by
  unfold Table.keys
  rw [entries, List.map_map]
  rfl

/-- From the table of the earlier declarations on. -/
theorem foldlM_addDeclaration (earlier rest : List Declaration)
    {table : Table EventType (List EventType)} (entries : table.entries = earlier.map entry) :
    match rest.foldlM addDeclaration table with
    | .ok later => later.entries = (earlier ++ rest).map entry
    | .error error => ∃ eventType, error = .duplicateEventType eventType ∧
        FirstRepeated (earlier ++ rest) eventType := by
  induction rest generalizing earlier table with
  | nil =>
    rw [List.append_nil]
    exact entries
  | cons declaration rest ih =>
    have keys := keys_of_entries entries
    rw [List.foldlM_cons]
    by_cases known : declaration.eventType ∈ declaredTypes earlier
    · have refused : addDeclaration table declaration =
          .error (.duplicateEventType declaration.eventType) :=
        if_pos (Table.contains_iff.mpr (keys ▸ known))
      rw [refused]
      exact ⟨_, rfl, earlier, declaration, rest, rfl, rfl, keys ▸ table.nodup_keys, known⟩
    · have absent : declaration.eventType ∉ table.keys := keys ▸ known
      have added : addDeclaration table declaration =
          .ok (table.insert declaration.eventType declaration.parents) :=
        if_neg (mt Table.contains_iff.mp absent)
      have grown := ih (earlier ++ [declaration]) (by
        rw [Table.entries_insert_of_not_mem absent, entries, List.map_append]
        rfl)
      rw [List.append_assoc] at grown
      rw [added]
      exact grown

theorem tabulate_cases (declarations : List Declaration) :
    match tabulate declarations with
    | .ok table => table.entries = declarations.map entry
    | .error error => ∃ eventType, error = .duplicateEventType eventType ∧
        FirstRepeated declarations eventType :=
  foldlM_addDeclaration [] declarations rfl

/-! ### The graph of the parents -/

theorem foldlM_flatMap {m : Type → Type} [Monad m] [LawfulMonad m] {α β γ : Type}
    (step : β → α → m β) (parts : γ → List α) (list : List γ) (start : β) :
    (list.flatMap parts).foldlM step start =
      list.foldlM (fun state part => (parts part).foldlM step state) start := by
  induction list generalizing start with
  | nil => rfl
  | cons first rest ih =>
    rw [List.flatMap_cons, List.foldlM_append, List.foldlM_cons]
    simp only [ih]

/-- A parent is refused exactly when it is faulty. -/
theorem putParent_eq {table : Table EventType (List EventType)} {graph : Graph EventType}
    (keys : table.keys = declaredTypes declarations) (policy : graph.allowsSelfLoops = false)
    (link : EventType × EventType) :
    putParent table graph link.1 link.2 =
      if Faulty declarations link then .error (fault declarations link)
      else .ok (graph.extended link.1 link.2) := by
  have put := graph.putEdge_eq link.1 link.2
  unfold putParent fault
  by_cases declared : link.2 ∈ declaredTypes declarations
  · rw [if_pos (Table.contains_iff.mpr (keys ▸ declared)), if_pos declared]
    by_cases own : link.1 = link.2
    · rw [if_pos ⟨own, policy⟩] at put
      have faulty : Faulty declarations link := .inr own
      rw [if_pos faulty]
      cases outcome : graph.putEdge link.1 link.2 with
      | error error => rfl
      | ok result =>
        rw [outcome] at put
        cases put
    · rw [if_neg fun both => own both.1] at put
      have sound : ¬ Faulty declarations link := fun faulty =>
        faulty.elim (fun unknown => unknown declared) own
      rw [if_neg sound]
      cases outcome : graph.putEdge link.1 link.2 with
      | error error =>
        rw [outcome] at put
        cases put
      | ok result =>
        rw [outcome] at put
        exact congrArg Except.ok (Except.ok.inj put)
  · have faulty : Faulty declarations link := .inl declared
    rw [if_neg (mt Table.contains_iff.mp (keys ▸ declared)), if_neg declared, if_pos faulty]

theorem foldlM_putParent {table : Table EventType (List EventType)}
    (keys : table.keys = declaredTypes declarations) (pairs : List (EventType × EventType))
    {graph : Graph EventType} (policy : graph.allowsSelfLoops = false) :
    pairs.foldlM (fun graph link => putParent table graph link.1 link.2) graph =
      match pairs.find? (Faulty declarations ·) with
      | some link => .error (fault declarations link)
      | none => .ok (graph.withEdges pairs) := by
  induction pairs generalizing graph with
  | nil => rfl
  | cons link rest ih =>
    rw [List.foldlM_cons, putParent_eq keys policy link]
    by_cases faulty : Faulty declarations link
    · have first : (link :: rest).find? (Faulty declarations ·) = some link := by simp [faulty]
      rw [if_pos faulty, first]
      rfl
    · have passed : (link :: rest).find? (Faulty declarations ·) =
          rest.find? (Faulty declarations ·) := by simp [faulty]
      rw [if_neg faulty, passed]
      exact ih (by simpa using policy)

/-- The graph of the declared types before any edge is put. -/
def bareGraph (declarations : List Declaration) : Graph EventType :=
  Graph.withNodes {} (declaredTypes declarations)

/-- The first faulty parent is reported; without one, the graph has an edge to every parent. -/
theorem parentGraph_eq {table : Table EventType (List EventType)}
    (entries : table.entries = declarations.map entry) :
    parentGraph table =
      match (links declarations).find? (Faulty declarations ·) with
      | some link => .error (fault declarations link)
      | none => .ok ((bareGraph declarations).withEdges (links declarations)) := by
  have keys := keys_of_entries entries
  have flat : links declarations =
      table.entries.flatMap fun entry => entry.2.map (entry.1, ·) := by
    rw [entries, List.flatMap_map]
    rfl
  have policy : (bareGraph declarations).allowsSelfLoops = false :=
    Graph.allowsSelfLoops_withNodes {} _
  rw [← foldlM_putParent keys (links declarations) policy, flat, foldlM_flatMap]
  unfold parentGraph bareGraph Graph.withNodes
  simp only [List.foldlM_map, keys]

/-! ### The hierarchy -/

/-- Where each type is declared once and no parent is faulty, the graph of the parents is the
relation between them. -/
theorem hasEdge_parentGraph {child parent : EventType} :
    ((bareGraph declarations).withEdges (links declarations)).HasEdge child parent ↔
      Parentage declarations child parent := by
  have bare : ¬ (bareGraph declarations).HasEdge child parent := by
    have same := Graph.successorsOf_withNodes {} (declaredTypes declarations) child
    intro edge
    exact List.not_mem_nil (same ▸ edge : parent ∈ Graph.successorsOf {} child)
  rw [Graph.hasEdge_withEdges, mem_links, or_iff_right bare]

theorem closed_parentGraph (once : (declaredTypes declarations).Nodup)
    (sound : ∀ link ∈ links declarations, ¬ Faulty declarations link) :
    ((bareGraph declarations).withEdges (links declarations)).Closed := by
  have nodes : (bareGraph declarations).nodes = declaredTypes declarations :=
    Graph.nodes_withNodes {} _ once
  have declared : ∀ link ∈ links declarations, link.2 ∈ declaredTypes declarations :=
    fun link member => Decidable.not_not.mp fun unknown => sound link member (.inl unknown)
  intro child parent edge
  have declares := hasEdge_parentGraph.mp edge
  rw [Graph.nodes_withEdges, nodes]
  · exact declared (child, parent) (mem_links.mpr declares)
  · intro link member
    rw [nodes]
    exact ⟨(mem_links.mp member).child_mem, declared link member⟩

/-- The error that building reports, with the reason why it is this one. -/
def Reports (declarations : List Declaration) : ConfigurationError → Prop
  | .duplicateEventType eventType => FirstRepeated declarations eventType
  | .unknownParent child parent =>
    (declaredTypes declarations).Nodup ∧ FirstFaulty declarations child parent ∧
      parent ∉ declaredTypes declarations
  | .cyclicHierarchy cycle =>
    (declaredTypes declarations).Nodup ∧
      ((∃ eventType, cycle = [eventType, eventType] ∧
          FirstFaulty declarations eventType eventType) ∨
        (∀ link ∈ links declarations, ¬ Faulty declarations link) ∧
          ClosedPath (Parentage declarations) cycle)
  | _ => False

theorem reports_fault (once : (declaredTypes declarations).Nodup) {child parent : EventType}
    (faulty : FirstFaulty declarations child parent) :
    Reports declarations (fault declarations (child, parent)) := by
  unfold fault
  by_cases declared : parent ∈ declaredTypes declarations
  · obtain ⟨-, -, -, unknown | own, -⟩ := id faulty
    · exact absurd declared unknown
    · obtain rfl : child = parent := own
      rw [if_pos declared]
      exact ⟨once, .inl ⟨child, rfl, faulty⟩⟩
  · rw [if_neg declared]
    exact ⟨once, faulty, declared⟩

theorem Reports.not_valid {error : ConfigurationError} (reports : Reports declarations error) :
    ¬ Valid declarations := by
  cases error with
  | duplicateEventType eventType => exact FirstRepeated.not_valid reports
  | unknownParent child parent => exact reports.2.1.not_valid
  | cyclicHierarchy cycle =>
    obtain ⟨-, ⟨eventType, -, faulty⟩ | ⟨-, closed⟩⟩ := reports
    · exact faulty.not_valid
    · exact fun valid => valid.not_circular closed.circular
  | _ => exact reports.elim

/-- What is made of the table when the graph of the parents has been searched. -/
def concluded (declared : Table EventType (List EventType)) :
    Except (Cycle EventType) (List EventType) → Except ConfigurationError Hierarchy
  | .error cycle => .error (.cyclicHierarchy cycle.path)
  | .ok _ => .ok (.ofDeclared declared)

/-- Of valid declarations comes a hierarchy that holds them, and of others an error. -/
theorem build_cases (declarations : List Declaration) :
    match build declarations with
    | .ok hierarchy => Valid declarations ∧ hierarchy.declared.entries = declarations.map entry
    | .error error => Reports declarations error := by
  have tabulated := tabulate_cases declarations
  cases table : tabulate declarations with
  | error error =>
    rw [table] at tabulated
    obtain ⟨eventType, rfl, repeated⟩ := tabulated
    have refused : build declarations = .error (.duplicateEventType eventType) := by
      unfold build
      rw [table]
      rfl
    rw [refused]
    exact repeated
  | ok declared =>
    rw [table] at tabulated
    have once : (declaredTypes declarations).Nodup :=
      keys_of_entries tabulated ▸ declared.nodup_keys
    have sorted : build declarations = parentGraph declared >>= fun graph =>
        concluded declared graph.topologicalOrder := by
      unfold build
      rw [table]
      rfl
    rw [parentGraph_eq tabulated] at sorted
    cases found : (links declarations).find? (Faulty declarations ·) with
    | some link =>
      rw [found] at sorted
      rw [sorted]
      exact reports_fault once (find?_faulty_eq_some_iff.mp found)
    | none =>
      have sound : ∀ link ∈ links declarations, ¬ Faulty declarations link := by
        simpa using List.find?_eq_none.mp found
      have searched := Graph.topologicalOrder_cases (closed_parentGraph once sound)
      have edges := @hasEdge_parentGraph declarations
      rw [found] at sorted
      replace sorted : build declarations = concluded declared
        ((bareGraph declarations).withEdges (links declarations)).topologicalOrder := sorted
      rw [sorted]
      generalize (bareGraph declarations).withEdges (links declarations) = graph at searched edges
      cases ordered : graph.topologicalOrder with
      | error cycle =>
        rw [ordered] at searched
        exact ⟨once, .inr ⟨sound, searched.mono fun child parent => edges.mp⟩⟩
      | ok order =>
        rw [ordered] at searched
        refine ⟨⟨once, fun child parent declares => ?_, ?_⟩, tabulated⟩
        · exact Decidable.not_not.mp fun unknown =>
            sound (child, parent) (mem_links.mpr declares) (.inl unknown)
        · exact fun circular =>
            searched.not_circular (circular.mono fun child parent => edges.mpr)

/-- **Building decides whether declarations are valid.** It succeeds exactly for those that are.
Otherwise a type that is declared twice is reported first, then the first parent that is not
declared or is the type itself, and only then a closed path along the parents. -/
theorem build_decides_validity (declarations : List Declaration) :
    ((∃ hierarchy, build declarations = .ok hierarchy) ↔ Valid declarations) ∧
      match build declarations with
      | .ok hierarchy => hierarchy.types = declaredTypes declarations
      | .error (.duplicateEventType eventType) => FirstRepeated declarations eventType
      | .error (.unknownParent child parent) =>
        (declaredTypes declarations).Nodup ∧ FirstFaulty declarations child parent ∧
          parent ∉ declaredTypes declarations
      | .error (.cyclicHierarchy cycle) =>
        (declaredTypes declarations).Nodup ∧
          ((∃ eventType, cycle = [eventType, eventType] ∧
              FirstFaulty declarations eventType eventType) ∨
            (∀ link ∈ links declarations, ¬ Faulty declarations link) ∧
              ClosedPath (Parentage declarations) cycle)
      | .error _ => False := by
  have cases := build_cases declarations
  cases built : build declarations with
  | ok hierarchy =>
    rw [built] at cases
    exact ⟨⟨fun _ => cases.1, fun _ => ⟨hierarchy, rfl⟩⟩, keys_of_entries cases.2⟩
  | error error =>
    rw [built] at cases
    have refused : ¬ ∃ hierarchy, (Except.error error : Except _ Hierarchy) = .ok hierarchy := by
      rintro ⟨_, same⟩
      cases same
    refine ⟨iff_of_false refused cases.not_valid, ?_⟩
    cases error with
    | duplicateEventType | unknownParent | cyclicHierarchy => exact cases
    | _ => exact cases.elim

/-- A repeated type is reported before faulty parents, though it comes last. -/
example : build [⟨⟨"leaf"⟩, [⟨"missing"⟩]⟩, ⟨⟨"root"⟩, [⟨"root"⟩]⟩, ⟨⟨"leaf"⟩, []⟩] =
    .error (.duplicateEventType ⟨"leaf"⟩) := rfl

end Hierarchy

end ExtensionHost
