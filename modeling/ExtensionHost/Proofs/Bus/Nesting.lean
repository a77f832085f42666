/-
**The code that a dispatch calls leaves no mark at the depth of that dispatch.**

Every entry of the journal tells how many dispatches were running. What code does is either a change
of the registrations, or it belongs to a dispatch that the code has entered, which is one deeper. So
the entries of the calls and turns of one dispatch can be told from all others.

* `Session.ownAt`: the entries at one depth that are no changes.
* `Session.Notes`: what is added to a journal, and which part of it stands at the present depth.
* `Session.Leads`: moreover, as many dispatches are running as before; or so many more, where the
  computation has not ended.
* `Run.Nests`: a computation that adds nothing at the present depth, in every session.
* `Program.HaltsOnlyIf`: whether the code of a program may halt.
* `nests_test`, `nests_handler`: all code of predicates and handlers nests, whatever it asks for, if
  the dispatches do so that it enters.
-/

import ExtensionHost.Proofs.Bus.Bystanders

namespace ExtensionHost

open Relation (ReflTransGen)

variable {σ ε κ α β : Type}

/-! ### Entries at one depth -/

namespace Session

/-- The activities that were put on record at this depth, without changes of the registrations. -/
def ownAt (depth : Nat) (entries : List (Entry ε κ)) : List (Activity ε κ) :=
  (entries.filter fun entry => entry.depth = depth && !entry.activity.isChange).map Entry.activity

theorem ownAt_append (depth : Nat) (first second : List (Entry ε κ)) :
    ownAt depth (first ++ second) = ownAt depth first ++ ownAt depth second := by
  unfold ownAt
  rw [List.filter_append, List.map_append]

/-- Changes are nobody's own. -/
theorem ownAt_of_isChange {depth : Nat} {entries : List (Entry ε κ)}
    (changes : ∀ entry ∈ entries, entry.activity.isChange = true) : ownAt depth entries = [] := by
  unfold ownAt
  rw [List.filter_eq_nil_iff.mpr, List.map_nil]
  intro entry member
  rw [changes entry member, Bool.not_true, Bool.and_false]
  exact Bool.false_ne_true

theorem ownAt_of_deeper {depth : Nat} {entries : List (Entry ε κ)}
    (deeper : ∀ entry ∈ entries, depth < entry.depth) : ownAt depth entries = [] := by
  unfold ownAt
  rw [List.filter_eq_nil_iff.mpr, List.map_nil]
  intro entry member
  rw [decide_eq_false (Nat.ne_of_gt (deeper entry member)), Bool.false_and]
  exact Bool.false_ne_true

/-- What is put on record here stands at the present depth. -/
theorem ownAt_entries (session : Session σ ε κ) {activities : List (Activity ε κ)}
    (plain : ∀ activity ∈ activities, activity.isChange = false) :
    ownAt session.bus.running (session.entries activities) = activities := by
  unfold ownAt entries
  rw [List.filter_eq_self.mpr, List.map_map]
  · exact List.map_id activities
  intro entry member
  obtain ⟨activity, among, rfl⟩ := List.mem_map.mp member
  rw [decide_eq_true rfl, plain activity among]
  rfl

/-! ### What is added -/

/-- The activities that have been put on record at one depth since this session. -/
def notedAt (session : Session σ ε κ) (depth : Nat) (later : Session σ ε κ) :
    List (Activity ε κ) :=
  ownAt depth (later.journal.drop session.journal.length)

/-- The later session has more on record. Nothing of it stands at a lower depth, and at the present
depth there are these activities. -/
def Notes (session later : Session σ ε κ) (own : List (Activity ε κ)) : Prop :=
  ∃ added, later.journal = session.journal ++ added ∧
    (∀ entry ∈ added, session.bus.running ≤ entry.depth) ∧
    ownAt session.bus.running added = own

variable {session middle later : Session σ ε κ} {first second own : List (Activity ε κ)}

theorem Notes.of_journal_eq (same : later.journal = session.journal) : session.Notes later [] :=
  ⟨[], same.trans (List.append_nil _).symm, fun _ member => absurd member List.not_mem_nil, rfl⟩

theorem Notes.congr {other : Session σ ε κ} (notes : session.Notes later own)
    (same : other.journal = later.journal) : session.Notes other own := by
  obtain ⟨added, grown, rest⟩ := notes
  exact ⟨added, same.trans grown, rest⟩

theorem Notes.trans (early : session.Notes middle first)
    (running : middle.bus.running = session.bus.running) (late : middle.Notes later second) :
    session.Notes later (first ++ second) := by
  obtain ⟨before, known, above, rfl⟩ := early
  obtain ⟨after, grown, deeper, rfl⟩ := late
  refine ⟨before ++ after, ?_, fun entry member => ?_, ?_⟩
  · rw [grown, known, List.append_assoc]
  · rcases List.mem_append.mp member with old | new
    · exact above entry old
    · exact running ▸ deeper entry new
  · rw [ownAt_append, running]

theorem Notes.notedAt_eq (notes : session.Notes later own) :
    session.notedAt session.bus.running later = own := by
  obtain ⟨added, grown, -, rfl⟩ := notes
  unfold notedAt
  rw [grown, List.drop_left]

theorem Notes.journal_grows (notes : session.Notes later own) :
    session.journal <+: later.journal := by
  obtain ⟨added, grown, -⟩ := notes
  exact ⟨added, grown.symm⟩

theorem notes_record (session : Session σ ε κ) {activities : List (Activity ε κ)}
    (plain : ∀ activity ∈ activities, activity.isChange = false) :
    session.Notes (session.record activities) activities := by
  refine ⟨session.entries activities, rfl, fun entry member => ?_, session.ownAt_entries plain⟩
  obtain ⟨activity, -, rfl⟩ := List.mem_map.mp member
  exact Nat.le_refl _

theorem Extends.ownAt_eq_nil {activities : List (Activity ε κ)}
    (extending : session.Extends later activities) (depth : Nat) :
    ownAt depth (session.entries activities) = [] := by
  refine ownAt_of_isChange fun entry member => ?_
  obtain ⟨activity, among, rfl⟩ := List.mem_map.mp member
  exact extending.changes activity among

theorem Extends.notes {activities : List (Activity ε κ)}
    (extending : session.Extends later activities) : session.Notes later [] := by
  refine ⟨session.entries activities, extending.journal, fun entry member => ?_,
    extending.ownAt_eq_nil _⟩
  obtain ⟨activity, -, rfl⟩ := List.mem_map.mp member
  exact Nat.le_refl _

/-! ### What comes of a computation -/

/-- What has come of a computation has put these activities on record at the depth where it began.
If the computation has ended, as many dispatches are running as before. If it has not, there are so
many more, unless it is code that may halt. -/
structure Leads (mayHalt : Bool) (room : Nat) (session : Session σ ε κ)
    (outcome : Option α × Session σ ε κ) (own : List (Activity ε κ)) : Prop where
  notes : session.Notes outcome.2 own
  returns : outcome.1.isSome = true → outcome.2.bus.running = session.bus.running
  stops : mayHalt = false → outcome.1 = none →
    outcome.2.bus.running = session.bus.running + room

variable {mayHalt : Bool} {room : Nat} {value : α} {outcome : Option β × Session σ ε κ}

theorem leads_of_ended (notes : session.Notes later own)
    (running : later.bus.running = session.bus.running) :
    session.Leads mayHalt room (some value, later) own :=
  ⟨notes, fun _ => running, fun _ endless => nomatch endless⟩

theorem Leads.trans (early : session.Leads mayHalt room (some value, middle) first)
    (late : middle.Leads mayHalt room outcome second) :
    session.Leads mayHalt room outcome (first ++ second) where
  notes := early.notes.trans (early.returns rfl) late.notes
  returns ended := (late.returns ended).trans (early.returns rfl)
  stops goesOn endless := by rw [late.stops goesOn endless, early.returns rfl]

/-- What waits for a computation that does not end does not end either. -/
theorem Leads.endless (leads : session.Leads mayHalt room ((none : Option α), later) own) :
    session.Leads mayHalt room ((none : Option β), later) own :=
  ⟨leads.notes, fun ended => (nomatch ended), fun goesOn _ => leads.stops goesOn rfl⟩

end Session

/-! ### Computations that leave no mark -/

namespace Run

/-- A computation that notes nothing at the present depth, in every session. -/
def Nests (mayHalt : Bool) (room : Nat) (run : Run σ ε κ α) : Prop :=
  ∀ session : Session σ ε κ, session.Leads mayHalt room (on run session) []

variable {mayHalt : Bool} {room : Nat}

theorem nests_pure (value : α) : Nests mayHalt room (pure value : Run σ ε κ α) :=
  fun _ => Session.leads_of_ended (.of_journal_eq rfl) rfl

theorem nests_bus : Nests mayHalt room (bus : Run σ ε κ (Bus κ)) :=
  fun _ => Session.leads_of_ended (.of_journal_eq rfl) rfl

theorem nests_diverge (allowed : mayHalt = true ∨ room = 0) :
    Nests mayHalt room (diverge : Run σ ε κ α) := by
  refine fun session => ⟨.of_journal_eq rfl, fun ended => (nomatch ended), fun goesOn _ => ?_⟩
  rcases allowed with halts | rfl
  · exact absurd (goesOn.symm.trans halts) Bool.false_ne_true
  · rfl

theorem Nests.bind {run : Run σ ε κ α} {next : α → Run σ ε κ β} (first : Nests mayHalt room run)
    (others : ∀ value, Nests mayHalt room (next value)) : Nests mayHalt room (run >>= next) := by
  intro session
  have early := first session
  rw [on_bind]
  generalize on run session = outcome at early
  rcases outcome with ⟨_ | value, middle⟩
  · exact early.endless
  · exact early.trans (others value middle)

/-- Operations of the bus end, and are changes. -/
theorem Operates.nests {run : Run σ ε κ α} (operates : Operates run)
    (ends : ∀ session, (on run session).1.isSome = true) : Nests mayHalt room run := by
  intro session
  obtain ⟨activities, extending⟩ := Session.extends_of_operations (operates session)
  refine ⟨extending.notes, fun _ => extending.running, fun _ endless => ?_⟩
  have ended := ends session
  rw [endless] at ended
  exact absurd ended Bool.false_ne_true

theorem nests_subscribeTo (eventType : EventType) (subscriber : Subscriber κ) :
    Nests mayHalt room (subscribeTo eventType subscriber : Run σ ε κ _) := by
  refine (operates_subscribeTo eventType subscriber).nests fun session => ?_
  rw [on_subscribeTo, on_enrol]
  split <;> rfl

theorem nests_subscribe (subscriber : Subscriber κ) :
    Nests mayHalt room (subscribe subscriber : Run σ ε κ _) := by
  refine (operates_subscribe subscriber).nests fun session => ?_
  rw [on_subscribe, on_enrol]
  split <;> rfl

theorem nests_revoke (subscription : Subscription) :
    Nests mayHalt room (revoke subscription : Run σ ε κ Bool) := by
  refine (operates_revoke subscription).nests fun session => ?_
  rw [on_revoke]
  split <;> rfl

theorem nests_retain : Nests mayHalt room (retain : Run σ ε κ Bool) := by
  refine operates_retain.nests fun session => ?_
  rw [on_retain]
  split <;> rfl

theorem nests_release : Nests mayHalt room (release : Run σ ε κ Bool) := by
  refine operates_release.nests fun session => ?_
  rw [on_release]
  split <;> rfl

theorem nests_withHandle {action : Run σ ε κ α} (inner : Nests mayHalt room action) :
    Nests mayHalt room (withHandle action) := by
  refine nests_bus.bind fun bus => ?_
  split
  · exact inner.bind fun _ => nests_pure _
  · exact nests_pure none

end Run

/-! ### The code of a program -/

/-- The request is answered, unless code may halt. -/
def Request.HaltsOnlyIf (mayHalt : Bool) : Request σ ε κ → Prop
  | halt => mayHalt = true
  | _ => True

/-- The same of the requests of a handler. -/
def HandlerRequest.HaltsOnlyIf (mayHalt : Bool) : HandlerRequest σ ε κ → Prop
  | plain request => request.HaltsOnlyIf mayHalt
  | amend _ | redispatch => True

/-- The code of predicates and handlers halts only if it may. -/
structure Program.HaltsOnlyIf (program : Program σ ε κ) (mayHalt : Bool) : Prop where
  test : ∀ name event, (program.test name event).Asks (Request.HaltsOnlyIf mayHalt)
  handle : ∀ name subscription event,
    (program.handle name subscription event).Asks (HandlerRequest.HaltsOnlyIf mayHalt)

theorem Script.asks_of_forall {R : Type} {Answer : R → Type} {allowed : R → Prop}
    (all : ∀ request, allowed request) (script : Script R Answer α) : script.Asks allowed := by
  induction script with
  | done value => trivial
  | panic payload => trivial
  | ask request next ih => exact ⟨all request, ih⟩

/-- Where code may halt, every program will do. -/
theorem Program.haltsOnlyIf_true (program : Program σ ε κ) : program.HaltsOnlyIf true := by
  have plain (request : Request σ ε κ) : request.HaltsOnlyIf true := by
    cases request <;> first | rfl | trivial
  refine ⟨fun name event => Script.asks_of_forall plain _, fun name subscription event =>
    Script.asks_of_forall (fun request => ?_) _⟩
  cases request with
  | plain request => exact plain request
  | amend change => trivial
  | redispatch => trivial

namespace Dispatch

open Run

variable {nested : ε → Run σ ε κ (ε × Outcome κ)} {program : Program σ ε κ} {mayHalt : Bool}
  {room : Nat}

/-- The same of a computation of a handler, whatever its event. -/
def NestsWith (mayHalt : Bool) (room : Nat) (run : StateT ε (Run σ ε κ) α) : Prop :=
  ∀ event, Nests mayHalt room (run.run event)

theorem nests_perform (inner : ∀ event, Nests mayHalt room (nested event))
    {request : Request σ ε κ} (answered : request.HaltsOnlyIf mayHalt) :
    Nests mayHalt room (perform nested request) := by
  cases request with
  | memory => exact fun _ => Session.leads_of_ended (.of_journal_eq rfl) rfl
  | remember memory => exact fun _ => Session.leads_of_ended (.of_journal_eq rfl) rfl
  | subscribe subscriber => exact nests_withHandle (nests_subscribe subscriber)
  | subscribeTo eventType subscriber =>
    exact nests_withHandle (nests_subscribeTo eventType subscriber)
  | revoke subscription => exact nests_revoke subscription
  | isActive subscription => exact nests_bus.bind fun _ => nests_pure _
  | unsubscribeIf selector order =>
    exact nests_withHandle ((operates_unsubscribeIf selector order).nests fun _ => rfl)
  | dispatch event => exact nests_withHandle (inner event)
  | isSubscribed eventType => exact nests_withHandle (nests_bus.bind fun _ => nests_pure _)
  | subscriberCount eventType => exact nests_withHandle (nests_bus.bind fun _ => nests_pure _)
  | retain => exact nests_retain
  | release => exact nests_release
  | halt => exact nests_diverge (.inl answered)

theorem nestsWith_performForHandler (inner : ∀ event, Nests mayHalt room (nested event))
    {request : HandlerRequest σ ε κ} (answered : request.HaltsOnlyIf mayHalt) :
    NestsWith mayHalt room (performForHandler nested request) := by
  intro event
  cases request with
  | plain request => exact (nests_perform inner answered).bind fun _ => nests_pure _
  | amend change => exact nests_pure _
  | redispatch =>
    rw [run_redispatch]
    refine (nests_withHandle (inner event)).bind fun answer => ?_
    cases answer with
    | none => exact nests_pure _
    | some result => exact nests_pure _

/-- The code of a predicate leaves no mark at the depth of the dispatch that asks it. -/
theorem nests_test (inner : ∀ event, Nests mayHalt room (nested event))
    (halts : program.HaltsOnlyIf mayHalt) (test : κ) (event : ε) :
    Nests mayHalt room ((program.test test event).run (perform nested)) :=
  Script.run_of_asks (Nests mayHalt room) nests_pure Nests.bind
    (fun _ => nests_perform inner) (halts.test test event)

/-- Neither does the code of a handler. -/
theorem nests_handler (inner : ∀ event, Nests mayHalt room (nested event))
    (halts : program.HaltsOnlyIf mayHalt) (handler : κ) (subscription : Subscription) (event : ε) :
    Nests mayHalt room
      (((program.handle handler subscription event).run (performForHandler nested)).run event) :=
  Script.run_of_asks (NestsWith mayHalt room) (fun _ _ => nests_pure _)
    (fun first others event => (first event).bind fun result => others result.1 result.2)
    (fun _ => nestsWith_performForHandler inner) (halts.handle handler subscription event) event

end Dispatch

end ExtensionHost
