/-
**A registry is what its calls have made of it, and once it is sealed it stays as it is.**

* `Registry.Call`, `Registry.request`: the calls as data, and what comes of each.
* `Registry.Course`: a registry with all calls made so far and their answers, from an empty one on.
* `Course.Recounts`: the registry is what the successful registrations make of an empty one, and it
  is sealed if a load order was given.
* `Recounts.next`, `recounts_ofCalls`: each call keeps that, and so do all calls.
* `exists_mended`: a registry that is not sealed can always be mended.
* `Course.Tells`, `tells_of_calls`: what the record of any calls tells about the registry.
-/

import ExtensionHost.Proofs.Extension.Resolution

namespace ExtensionHost

namespace Registry

/-! ### Calls -/

/-- What a registry is asked to do. -/
inductive Call where
  /-- An extension is registered with its dependencies. -/
  | register (id : ExtensionId) (dependencies : List Dependency)
  /-- The load order is computed. -/
  | loadOrder
  /-- The dependency graph is drawn. -/
  | dependencyGraph
deriving DecidableEq, Repr

/-- What a call gives that does not fail. -/
inductive Answer where
  /-- The extension is registered. -/
  | registered
  /-- The load order. -/
  | ordered (order : List ExtensionId)
  /-- The dependency graph. -/
  | drawn (graph : Graph ExtensionId)

/-- What a call gives, with the registry afterwards. -/
def request (registry : Registry) : Call → Except RegistryError (Answer × Registry)
  | .register id dependencies =>
    (registry.register id dependencies).value.map fun changed => (.registered, changed)
  | .loadOrder => registry.loadOrder.value.map fun (order, after) => (.ordered order, after)
  | .dependencyGraph => registry.dependencyGraph.value.map fun graph => (.drawn graph, registry)

/-- The registry after a call; one that fails changes nothing. -/
def after (registry : Registry) (call : Call) : Registry :=
  match registry.request call with
  | .ok (_, changed) => changed
  | .error _ => registry

/-- A call on record, with its answer or the reason why it failed. -/
structure Exchange where
  call : Call
  answer : Except RegistryError Answer

namespace Exchange

/-- The declaration, if this was a registration that succeeded. -/
def declaration? : Exchange → Option (ExtensionId × List Dependency)
  | { call := .register id dependencies, answer := .ok _ } => some (id, dependencies)
  | _ => none

/-- Whether a load order was given. -/
def isOrder : Exchange → Bool
  | { call := .loadOrder, answer := .ok _ } => true
  | _ => false

end Exchange

/-- A registry with all that it was asked so far, from an empty one on. -/
structure Course where
  registry : Registry := {}
  record : List Exchange := []

namespace Course

/-- One more call. -/
def next (course : Course) (call : Call) : Course where
  registry := course.registry.after call
  record := course.record ++ [{ call, answer := (course.registry.request call).map Prod.fst }]

/-- The calls, one after the other. -/
def ofCalls (calls : List Call) : Course :=
  calls.foldl next {}

/-- The declarations that were accepted, in order. -/
def declarations (course : Course) : List (ExtensionId × List Dependency) :=
  course.record.filterMap Exchange.declaration?

end Course

variable {registry : Registry} {call : Call}

/-! ### What comes of a call -/

theorem request_register (unsealed : registry.isSealed = false) (id : ExtensionId)
    (dependencies : List Dependency) :
    registry.request (.register id dependencies) =
      .ok (.registered,
        { registry with declarations := registry.declarations.insert id dependencies }) := by
  unfold request register
  rw [unsealed]
  rfl

theorem request_of_sealed (locked : registry.isSealed = true) (changes : call ≠ .dependencyGraph) :
    registry.request call = .error .registrySealed := by
  cases call with
  | register id dependencies =>
    unfold request register
    rw [locked]
    rfl
  | loadOrder =>
    unfold request loadOrder
    rw [locked]
    rfl
  | dependencyGraph => exact absurd rfl changes

theorem after_of_error {error : RegistryError} (failed : registry.request call = .error error) :
    registry.after call = registry := by
  unfold after
  rw [failed]

theorem after_dependencyGraph (registry : Registry) :
    registry.after .dependencyGraph = registry := by
  unfold after request
  cases registry.dependencyGraph.value <;> rfl

theorem sealed_of_loadOrder {order : List ExtensionId} {after : Registry}
    (succeeded : registry.loadOrder.value = .ok (order, after)) :
    after = { registry with isSealed := true } := by
  obtain ⟨graph, built, nodes, -, sorted⟩ := order_of_loadOrder succeeded
  rw [loadOrder_value (unsealed_of_loadOrder succeeded) built nodes, sorted] at succeeded
  exact (Prod.mk.inj (Except.ok.inj succeeded)).2.symm

/-! ### What the record tells -/

namespace Course

/-- The registry is what the accepted declarations make of an empty one, and it is sealed if a load
order was given. -/
structure Recounts (course : Course) : Prop where
  declarations :
    course.registry.declarations = (ofDeclarations course.declarations).declarations
  isSealed : course.registry.isSealed = course.record.any Exchange.isOrder

variable {course : Course}

/-- A call that is no registration and gives no load order leaves all as it was. -/
theorem Recounts.idle (recounts : course.Recounts)
    (kept : course.registry.after call = course.registry)
    (undeclared : Exchange.declaration?
      { call, answer := (course.registry.request call).map Prod.fst } = none)
    (unordered : Exchange.isOrder
      { call, answer := (course.registry.request call).map Prod.fst } = false) :
    (course.next call).Recounts where
  declarations := by
    show (course.registry.after call).declarations = _
    rw [kept, recounts.declarations]
    unfold Course.declarations next
    rw [List.filterMap_append, List.filterMap_cons_none undeclared, List.filterMap_nil,
      List.append_nil]
  isSealed := by
    show (course.registry.after call).isSealed = (course.record ++ _).any Exchange.isOrder
    rw [kept, recounts.isSealed, List.any_append, List.any_cons, unordered, List.any_nil,
      Bool.or_false, Bool.or_false]

theorem declarations_register (unsealed : course.registry.isSealed = false) (id : ExtensionId)
    (dependencies : List Dependency) :
    (course.next (.register id dependencies)).declarations =
      course.declarations ++ [(id, dependencies)] := by
  unfold declarations next
  rw [List.filterMap_append, request_register unsealed]
  rfl

theorem Recounts.register (recounts : course.Recounts)
    (unsealed : course.registry.isSealed = false) (id : ExtensionId)
    (dependencies : List Dependency) : (course.next (.register id dependencies)).Recounts := by
  have accepted := request_register unsealed id dependencies
  constructor
  · rw [declarations_register unsealed, ofDeclarations_concat, ← recounts.declarations]
    unfold Course.next after
    rw [accepted]
  · unfold Course.next after
    rw [accepted, List.any_append, ← recounts.isSealed]
    exact (Bool.or_false _).symm

theorem Recounts.loadOrder (recounts : course.Recounts) {order : List ExtensionId}
    {sealedRegistry : Registry}
    (succeeded : course.registry.loadOrder.value = .ok (order, sealedRegistry)) :
    (course.next .loadOrder).Recounts := by
  have accepted : course.registry.request .loadOrder = .ok (.ordered order, sealedRegistry) := by
    unfold request
    rw [succeeded]
    rfl
  have locked := sealed_of_loadOrder succeeded
  constructor
  · have declared : (course.next .loadOrder).declarations = course.declarations := by
      unfold Course.declarations Course.next
      rw [List.filterMap_append, accepted]
      exact List.append_nil _
    rw [declared, ← recounts.declarations]
    unfold Course.next after
    rw [accepted, locked]
  · unfold Course.next after
    rw [accepted, locked, List.any_append]
    exact (Bool.or_true _).symm

/-- Each call keeps the record true. -/
theorem Recounts.next (recounts : course.Recounts) (call : Call) : (course.next call).Recounts := by
  cases outcome : course.registry.request call with
  | error error =>
    refine recounts.idle (after_of_error outcome) ?_ ?_ <;> rw [outcome] <;> cases call <;> rfl
  | ok result =>
    cases call with
    | register id dependencies =>
      cases locked : course.registry.isSealed with
      | false => exact recounts.register locked id dependencies
      | true => cases outcome.symm.trans (request_of_sealed locked nofun)
    | loadOrder =>
      cases succeeded : course.registry.loadOrder.value with
      | ok ordered => exact recounts.loadOrder succeeded
      | error error =>
        unfold request at outcome
        rw [succeeded] at outcome
        cases outcome
    | dependencyGraph => exact recounts.idle (after_dependencyGraph _) rfl rfl

theorem ofCalls_concat (calls : List Call) (last : Call) :
    ofCalls (calls ++ [last]) = (ofCalls calls).next last := by
  unfold ofCalls
  rw [List.foldl_append, List.foldl_cons, List.foldl_nil]

theorem recounts_ofCalls (calls : List Call) : (ofCalls calls).Recounts := by
  induction calls using List.reverseRecOn with
  | nil => exact ⟨rfl, rfl⟩
  | append_singleton earlier last ih =>
    rw [ofCalls_concat]
    exact ih.next last

theorem dependenciesOf?_eq (calls : List Call) (id : ExtensionId) :
    (ofCalls calls).registry.dependenciesOf? id =
      (ofCalls calls).declarations.reverse.lookup id := by
  rw [← dependenciesOf?_ofDeclarations]
  unfold dependenciesOf?
  rw [(recounts_ofCalls calls).declarations]

/-! ### Mending -/

/-- The calls, and then more extensions, or the same ones again. -/
def mended (calls : List Call) (further : List (ExtensionId × List Dependency)) : Course :=
  ofCalls (calls ++ further.map fun declaration => .register declaration.1 declaration.2)

variable {calls : List Call}

/-- As long as no load order was given, all that is registered is accepted. -/
theorem declarations_mended (unsealed : (ofCalls calls).registry.isSealed = false)
    (further : List (ExtensionId × List Dependency)) :
    (mended calls further).declarations = (ofCalls calls).declarations ++ further ∧
      (mended calls further).registry.isSealed = false := by
  induction further using List.reverseRecOn with
  | nil => simpa [mended] using unsealed
  | append_singleton earlier last ih =>
    obtain ⟨declared, unlocked⟩ := ih
    have grown : mended calls (earlier ++ [last]) =
        (mended calls earlier).next (.register last.1 last.2) := by
      unfold mended
      rw [List.map_append, ← List.append_assoc]
      exact ofCalls_concat _ _
    rw [grown, declarations_register unlocked, declared, List.append_assoc]
    refine ⟨rfl, ?_⟩
    unfold next after
    rw [request_register unlocked]
    exact unlocked

/-- Registered again without dependencies, the extensions have a load order. -/
theorem exists_mended (unsealed : (ofCalls calls).registry.isSealed = false) :
    ∃ further order after,
      (mended calls further).registry.loadOrder.value = .ok (order, after) := by
  let further : List (ExtensionId × List Dependency) := (ofCalls calls).registry.ids.map (·, [])
  obtain ⟨declared, unlocked⟩ := declarations_mended unsealed further
  have cleared : ∀ id, (mended calls further).registry.dependenciesOf id = [] := by
    intro id
    unfold dependenciesOf mended
    rw [dependenciesOf?_eq]
    show ((mended calls further).declarations.reverse.lookup id).getD [] = []
    rw [declared, List.reverse_append, List.lookup_append]
    cases renewed : further.reverse.lookup id with
    | some dependencies =>
      have member := List.mem_reverse.mp (Table.mem_of_lookup renewed)
      obtain ⟨other, -, same⟩ := List.mem_map.mp member
      exact (Prod.mk.inj same).2.symm
    | none =>
      have absent : id ∉ (ofCalls calls).registry.ids := by
        rw [← Option.not_isSome_iff_eq_none, Table.lookup_isSome_iff] at renewed
        simpa [further] using renewed
      have missing : (ofCalls calls).registry.dependenciesOf? id = none :=
        Table.get?_eq_none_iff.mpr absent
      rw [← dependenciesOf?_eq, missing]
      rfl
  have nothing : (mended calls further).registry.declared = [] := by
    rw [declared_eq]
    simp [cleared]
  refine ⟨further, (exists_loadOrder_iff unlocked).mpr ⟨?_, ?_⟩⟩
  · unfold Complete
    simp [nothing]
  · rintro ⟨id, circle⟩
    obtain ⟨next, ⟨dependency, member, -⟩, -⟩ := Relation.TransGen.head'_iff.mp circle
    rw [nothing] at member
    exact List.not_mem_nil member

/-! ### All of it -/

/-- What the record of the calls tells about the registry. -/
structure Tells (calls : List Call) : Prop where
  /-- The extensions are those of the accepted declarations, each once and in the order in which it
  was first declared. -/
  ids : (ofCalls calls).registry.ids = ((ofCalls calls).declarations.map Prod.fst).eraseDups
  /-- The dependencies are those of the last accepted declaration. -/
  dependenciesOf? : ∀ id, (ofCalls calls).registry.dependenciesOf? id =
    (ofCalls calls).declarations.reverse.lookup id
  /-- An extension without an accepted declaration is not there. -/
  contains_iff : ∀ id, (ofCalls calls).registry.contains id = true ↔
    id ∈ (ofCalls calls).declarations.map Prod.fst
  /-- The registry is sealed once a load order was given. -/
  isSealed_iff : (ofCalls calls).registry.isSealed = true ↔
    ∃ exchange ∈ (ofCalls calls).record, exchange.isOrder = true
  /-- Once sealed, it stays as it is, and refuses to register or to order. -/
  locked : (ofCalls calls).registry.isSealed = true → ∀ later,
    (ofCalls (calls ++ later)).registry = (ofCalls calls).registry ∧
      ∀ call, call ≠ .dependencyGraph →
        (ofCalls (calls ++ later)).registry.request call = .error .registrySealed
  /-- A call that fails changes nothing. -/
  failed : ∀ call error, (ofCalls calls).registry.request call = .error error →
    (ofCalls calls).registry.after call = (ofCalls calls).registry
  /-- Neither does drawing the graph, whether it succeeds or not. -/
  drawn : (ofCalls calls).registry.after .dependencyGraph = (ofCalls calls).registry
  /-- As long as it is not sealed, whatever load order failed, it accepts more declarations, and then
  there is a load order if nothing is missing any more and nothing runs in a circle. -/
  mended : (ofCalls calls).registry.isSealed = false → ∀ further,
    (mended calls further).declarations = (ofCalls calls).declarations ++ further ∧
      ((∃ order after, (mended calls further).registry.loadOrder.value = .ok (order, after)) ↔
        (mended calls further).registry.Complete ∧
          ¬ Circular (mended calls further).registry.DependsOn)
  /-- Declarations that bring this about can always be found. -/
  mendable : (ofCalls calls).registry.isSealed = false → ∃ further order after,
    (Course.mended calls further).registry.loadOrder.value = .ok (order, after)

theorem registry_of_sealed (locked : (ofCalls calls).registry.isSealed = true)
    (later : List Call) : (ofCalls (calls ++ later)).registry = (ofCalls calls).registry := by
  induction later using List.reverseRecOn with
  | nil => rw [List.append_nil]
  | append_singleton earlier last ih =>
    rw [← List.append_assoc, ofCalls_concat]
    show (ofCalls (calls ++ earlier)).registry.after last = _
    rw [ih]
    by_cases drawing : last = .dependencyGraph
    · rw [drawing, after_dependencyGraph]
    · exact after_of_error (request_of_sealed locked drawing)

/-- **A registry is what its calls have made of it.** Whatever is registered, ordered and drawn, in
whatever order, the record of the calls and their answers tells what the registry holds, whether it
is sealed, and what it will answer. -/
theorem tells_of_calls (calls : List Call) : Tells calls where
  ids := by
    rw [← ids_ofDeclarations]
    unfold Registry.ids
    rw [(recounts_ofCalls calls).declarations]
  dependenciesOf? := dependenciesOf?_eq calls
  contains_iff id := by
    have listed : id ∈ (ofCalls calls).registry.ids ↔
        ((ofCalls calls).registry.dependenciesOf? id).isSome := Table.get?_isSome_iff.symm
    rw [Registry.contains_iff, listed, dependenciesOf?_eq, Table.lookup_isSome_iff,
      List.map_reverse, List.mem_reverse]
  isSealed_iff := by rw [(recounts_ofCalls calls).isSealed, List.any_eq_true]
  locked locked later := by
    have same := registry_of_sealed locked later
    refine ⟨same, fun call changes => ?_⟩
    rw [same]
    exact request_of_sealed locked changes
  failed _ _ := after_of_error
  drawn := after_dependencyGraph _
  mended unsealed further := by
    obtain ⟨declared, unlocked⟩ := declarations_mended unsealed further
    exact ⟨declared, exists_loadOrder_iff unlocked⟩
  mendable := exists_mended

/-- A load order that fails for want of an extension is given once that is registered, and nothing
is registered afterwards. -/
example : (ofCalls [.register ⟨"app"⟩ [{ target := ⟨"core"⟩ }], .loadOrder,
    .register ⟨"core"⟩ [], .loadOrder, .register ⟨"app"⟩ []]).record.map (·.answer.toBool) =
      [true, false, true, true, false] := rfl

end Course

end Registry

end ExtensionHost
