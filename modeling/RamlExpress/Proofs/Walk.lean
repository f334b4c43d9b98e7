import RamlExpress.Proofs.OrderedMap
import RamlExpress.Scaffold

/-!
# Proofs/Walk — a walk is a fold over the methods in document order

The methods of a forest, each with its absolute path, form one list: those of a resource, then those
of its children (`Resource.operations`).  A walk composes that list from left to right and stops at
the first method that fails; the nesting of the resources shows nowhere else.

* `Walk.state_visitAll` — the walk is `Operation.collect`, the fold over that list.
* `walk_follows_operations` — where the fold stops, what it has kept by then, and its failure.
-/

namespace RamlExpress

/-- A method with the absolute path it stands at. -/
structure Operation where
  uri : String
  segments : List Segment
  method : Method

mutual

/-- **The operations of a resource** below a path: its own, then those of its children. -/
def Resource.operations (uri : String) (segments : List Segment) : Resource → List Operation
  | .mk relative own methods children =>
    methods.map (Operation.mk (uri ++ relative) (segments ++ own))
      ++ operationsIn (uri ++ relative) (segments ++ own) children

/-- The operations of resources below a path, one resource after the other. -/
def Resource.operationsIn (uri : String) (segments : List Segment) : List Resource → List Operation
  | [] => []
  | resource :: rest => resource.operations uri segments ++ operationsIn uri segments rest

end

namespace Operation

/-- What an operation becomes, or why it becomes nothing. -/
def handler (operation : Operation) : Except Failure Handler :=
  (operation.method.handlerAt operation.uri operation.segments).result

/-- An operation becomes something. -/
def Succeeds (operation : Operation) : Prop := ∃ handler, operation.handler = .ok handler

/-- Adds what the operations become, up to the first one that fails. -/
def collect (scaffold : Scaffold) : List Operation → Scaffold × Option Failure
  | [] => (scaffold, none)
  | operation :: rest =>
    match operation.handler with
    | .ok handler => collect (scaffold.add handler) rest
    | .error failure => (scaffold, some failure)

/-- Collecting a concatenation goes on behind the first part, unless that part failed. -/
theorem collect_append (scaffold : Scaffold) (first second : List Operation) :
    collect scaffold (first ++ second)
      = match collect scaffold first with
        | (done, none) => collect done second
        | (done, some failure) => (done, some failure) := by
  induction first generalizing scaffold with
  | nil => rfl
  | cons operation rest ih =>
    simp only [List.cons_append, collect]
    cases operation.handler with
    | ok handler => exact ih (scaffold.add handler)
    | error failure => rfl

end Operation

namespace Walk

/-! ## The walk as a fold

The log of a walk has lines that the fold has not; what was collected and the failure are all that
the two have in common, and all that a later step looks at. -/

/-- What was collected, and the failure. -/
def state (walk : Walk) : Scaffold × Option Failure := (walk.scaffold, walk.failure)

@[simp] theorem failure_note (walk : Walk) (lines : List LogLine) :
    (walk.note lines).failure = walk.failure := rfl

@[simp] theorem scaffold_note (walk : Walk) (lines : List LogLine) :
    (walk.note lines).scaffold = walk.scaffold := rfl

/-- A walk that has ended composes nothing more. -/
theorem compose_ended {walk : Walk} {failure : Failure} (h : walk.failure = some failure)
    (uri : String) (segments : List Segment) (method : Method) :
    compose uri segments walk method = walk := by
  simp [compose, h]

/-- **One step of a walk** is one step of the fold. -/
theorem state_compose {walk : Walk} (h : walk.failure = none) (operation : Operation) :
    (compose operation.uri operation.segments walk operation.method).state
      = Operation.collect walk.scaffold [operation] := by
  simp only [compose, h, Option.isSome_none, Bool.false_eq_true, if_false, Operation.collect,
    Operation.handler]
  cases (operation.method.handlerAt operation.uri operation.segments).result with
  | ok handler => simp [state, h]
  | error failure => rfl

/-- **A step of a walk folds some operations**: it does nothing to a walk that has ended, and to any
other what the fold does. -/
def Folds (step : Walk → Walk) (operations : List Operation) : Prop :=
  ∀ walk : Walk, (step walk).state
    = match walk.failure with
      | none => Operation.collect walk.scaffold operations
      | some failure => (walk.scaffold, some failure)

theorem folds_id : Folds id [] := by
  intro walk
  cases h : walk.failure <;> simp [state, Operation.collect, h]

/-- Two steps that fold, one after the other, fold the concatenation. -/
theorem Folds.append {first second : Walk → Walk} {before after : List Operation}
    (h₁ : Folds first before) (h₂ : Folds second after) :
    Folds (fun walk => second (first walk)) (before ++ after) := by
  intro walk
  have hfirst := h₁ walk
  rw [h₂ (first walk)]
  cases hwalk : walk.failure with
  | some failure =>
    obtain ⟨hs, hf⟩ : (first walk).scaffold = walk.scaffold
        ∧ (first walk).failure = some failure := by
      simpa [hwalk, state] using hfirst
    simp only [hs, hf]
  | none =>
    simp only [hwalk] at hfirst
    simp only [Operation.collect_append, ← hfirst]
    cases hf : (first walk).failure <;> simp [state, hf]

theorem folds_compose (operation : Operation) :
    Folds (fun walk => compose operation.uri operation.segments walk operation.method)
      [operation] := by
  intro walk
  cases h : walk.failure with
  | none => exact state_compose h operation
  | some failure => simp [compose_ended h, state, h]

/-- The methods of one resource. -/
theorem folds_methods (uri : String) (segments : List Segment) (methods : List Method) :
    Folds (methods.foldl (compose uri segments)) (methods.map (Operation.mk uri segments)) := by
  induction methods with
  | nil => exact folds_id
  | cons method rest ih => exact (folds_compose ⟨uri, segments, method⟩).append ih

mutual

/-- **The walk of a resource folds its operations** — by recursion on the tree, since the children
are walked at a longer path. -/
theorem folds_visit (uri : String) (segments : List Segment) :
    ∀ resource : Resource, Folds (visit uri segments resource) (resource.operations uri segments)
  | .mk relative own methods children => by
    intro walk
    have hall := (folds_methods (uri ++ relative) (segments ++ own) methods).append
      (folds_visitAll (uri ++ relative) (segments ++ own) children)
    cases h : walk.failure with
    | some failure => simp [visit, state, h]
    | none =>
      have hnoted := hall
        (walk.note [visitLine (uri ++ relative) methods.length children.length])
      simp only [failure_note, scaffold_note, h] at hnoted
      simpa [visit, h, Resource.operations] using hnoted

theorem folds_visitAll (uri : String) (segments : List Segment) :
    ∀ resources : List Resource,
      Folds (visitAll uri segments resources) (Resource.operationsIn uri segments resources)
  | [] => folds_id
  | resource :: rest => by
    simpa only [Resource.operationsIn, visitAll] using
      (folds_visit uri segments resource).append (folds_visitAll uri segments rest)

end

/-- …so a walk that starts without a failure is the fold. -/
theorem state_visitAll (uri : String) (segments : List Segment) (resources : List Resource)
    (start : Scaffold) (log : List LogLine) :
    (visitAll uri segments resources { scaffold := start, log }).state
      = Operation.collect start (Resource.operationsIn uri segments resources) :=
  folds_visitAll uri segments resources { scaffold := start, log }

theorem state_visit (uri : String) (segments : List Segment) (resource : Resource)
    (start : Scaffold) (log : List LogLine) :
    (visit uri segments resource { scaffold := start, log }).state
      = Operation.collect start (resource.operations uri segments) :=
  folds_visit uri segments resource { scaffold := start, log }

end Walk

/-! ## Where the fold stops

The operations before the first that fails are the ones that are kept; each adds its code at the end
and its model, if it has one, under the name of its resource. -/

/-- The model that a handler registers, under its name. -/
def Handler.registered? (handler : Handler) : Option (String × FieldSchema) :=
  handler.schema.map (handler.model, ·)

namespace Scaffold

theorem fragments_foldl_add (handlers : List Handler) (start : Scaffold) :
    (handlers.foldl add start).fragments
      = start.fragments ++ handlers.filterMap (·.fragment) := by
  induction handlers generalizing start with
  | nil => simp
  | cons handler rest ih =>
    rw [List.foldl_cons, ih]
    cases h : handler.fragment <;> simp [add, h]

theorem models_foldl_add (handlers : List Handler) (start : Scaffold) :
    (handlers.foldl add start).models
      = start.models.insertAll (handlers.filterMap Handler.registered?) := by
  induction handlers generalizing start with
  | nil => rfl
  | cons handler rest ih =>
    rw [List.foldl_cons, ih]
    cases h : handler.schema <;> simp [add, Handler.registered?, h]

end Scaffold

namespace Operation

/-- Operations that all succeed become a list of handlers. -/
theorem exists_handlers {operations : List Operation}
    (h : ∀ operation ∈ operations, operation.Succeeds) :
    ∃ handlers : List Handler, operations.map handler = handlers.map .ok := by
  induction operations with
  | nil => exact ⟨[], rfl⟩
  | cons operation rest ih =>
    obtain ⟨first, hfirst⟩ := h operation List.mem_cons_self
    obtain ⟨handlers, hrest⟩ := ih fun other hother => h other (List.mem_cons_of_mem _ hother)
    exact ⟨first :: handlers, by rw [List.map_cons, List.map_cons, hfirst, hrest]⟩

/-- The operations all succeed, or they split at the first that fails. -/
theorem succeed_or_split (operations : List Operation) :
    (∀ operation ∈ operations, operation.Succeeds)
    ∨ ∃ before operation after failure, operations = before ++ operation :: after
      ∧ (∀ earlier ∈ before, earlier.Succeeds) ∧ operation.handler = .error failure := by
  induction operations with
  | nil => exact .inl (by simp)
  | cons operation rest ih =>
    cases h : operation.handler with
    | error failure => exact .inr ⟨[], operation, rest, failure, rfl, by simp, h⟩
    | ok first =>
      rcases ih with hall | ⟨before, other, after, failure, rfl, hbefore, hfail⟩
      · exact .inl (List.forall_mem_cons.2 ⟨⟨first, h⟩, hall⟩)
      · exact .inr ⟨operation :: before, other, after, failure, rfl,
          List.forall_mem_cons.2 ⟨⟨first, h⟩, hbefore⟩, hfail⟩

/-- **Operations that succeed are all collected.** -/
theorem collect_of_handlers {operations : List Operation} {handlers : List Handler}
    (h : operations.map handler = handlers.map .ok) (start : Scaffold) :
    collect start operations = (handlers.foldl Scaffold.add start, none) := by
  induction operations generalizing handlers start with
  | nil =>
    obtain rfl : handlers = [] := by simpa using h.symm
    rfl
  | cons operation rest ih =>
    cases handlers with
    | nil => simp at h
    | cons first handlers =>
      obtain ⟨hfirst, hrest⟩ := List.cons.inj h
      rw [collect, hfirst]
      exact ih hrest (start.add first)

/-- **…and a failure keeps those before it.** -/
theorem collect_of_failure {before : List Operation} {handlers : List Handler}
    (h : before.map handler = handlers.map .ok) {operation : Operation} {failure : Failure}
    (hfail : operation.handler = .error failure) (after : List Operation) (start : Scaffold) :
    collect start (before ++ operation :: after)
      = (handlers.foldl Scaffold.add start, some failure) := by
  rw [collect_append, collect_of_handlers h]
  simp only [collect, hfail]

/-- The fold ends without a failure iff there is none. -/
theorem collect_snd_eq_none_iff (start : Scaffold) (operations : List Operation) :
    (collect start operations).2 = none ↔ ∀ operation ∈ operations, operation.Succeeds := by
  rcases succeed_or_split operations with hall | hsplit
  · obtain ⟨handlers, hmap⟩ := exists_handlers hall
    rw [collect_of_handlers hmap]
    exact ⟨fun _ => hall, fun _ => rfl⟩
  · obtain ⟨before, operation, after, failure, rfl, hbefore, hfail⟩ := hsplit
    obtain ⟨handlers, hmap⟩ := exists_handlers hbefore
    rw [collect_of_failure hmap hfail]
    refine ⟨nofun, fun hall => ?_⟩
    obtain ⟨handler, hok⟩ := hall operation (by simp)
    exact nomatch hfail.symm.trans hok

/-- …and otherwise with the failure of the first operation that fails. -/
theorem collect_snd_eq_some_iff (start : Scaffold) (operations : List Operation)
    (failure : Failure) :
    (collect start operations).2 = some failure ↔
      ∃ before operation after, operations = before ++ operation :: after
        ∧ (∀ earlier ∈ before, earlier.Succeeds) ∧ operation.handler = .error failure := by
  constructor
  · intro h
    rcases succeed_or_split operations with hall | hsplit
    · rw [(collect_snd_eq_none_iff start operations).2 hall] at h
      exact nomatch h
    · obtain ⟨before, operation, after, other, rfl, hbefore, hfail⟩ := hsplit
      obtain ⟨handlers, hmap⟩ := exists_handlers hbefore
      rw [collect_of_failure hmap hfail] at h
      obtain rfl : other = failure := Option.some.inj h
      exact ⟨before, operation, after, rfl, hbefore, hfail⟩
  · rintro ⟨before, operation, after, rfl, hbefore, hfail⟩
    obtain ⟨handlers, hmap⟩ := exists_handlers hbefore
    rw [collect_of_failure hmap hfail]

/-- The fold keeps exactly the operations before the first that fails. -/
theorem collect_fst_eq (start : Scaffold) (operations : List Operation) :
    ∃ (before after : List Operation) (handlers : List Handler), operations = before ++ after
      ∧ before.map handler = handlers.map .ok
      ∧ (∀ operation ∈ after.head?, ¬operation.Succeeds)
      ∧ (collect start operations).1 = handlers.foldl Scaffold.add start := by
  rcases succeed_or_split operations with hall | hsplit
  · obtain ⟨handlers, hmap⟩ := exists_handlers hall
    exact ⟨operations, [], handlers, by simp, hmap, by simp, by rw [collect_of_handlers hmap]⟩
  · obtain ⟨before, operation, after, failure, rfl, hbefore, hfail⟩ := hsplit
    obtain ⟨handlers, hmap⟩ := exists_handlers hbefore
    refine ⟨before, operation :: after, handlers, rfl, hmap, ?_,
      by rw [collect_of_failure hmap hfail]⟩
    simp [Succeeds, hfail]

end Operation

/-- **What a walk over some operations leaves behind**, from `start` on. -/
structure Walk.Follows (walk : Walk) (operations : List Operation) (start : Scaffold) : Prop where
  succeeds_iff : walk.failure = none ↔ ∀ operation ∈ operations, operation.Succeeds
  /-- The failure is that of the first operation that fails. -/
  fails_iff : ∀ failure, walk.failure = some failure ↔
    ∃ before operation after, operations = before ++ operation :: after
      ∧ (∀ earlier ∈ before, earlier.Succeeds) ∧ operation.handler = .error failure
  /-- What was collected is what the operations before that one became. -/
  keeps : ∃ (before after : List Operation) (handlers : List Handler),
    operations = before ++ after
    ∧ before.map Operation.handler = handlers.map .ok
    ∧ (∀ operation ∈ after.head?, ¬operation.Succeeds)
    ∧ walk.scaffold.fragments = start.fragments ++ handlers.filterMap (·.fragment)
    ∧ walk.scaffold.models = start.models.insertAll (handlers.filterMap Handler.registered?)

/-- A walk that ends as the fold does follows the operations. -/
theorem Walk.follows_of_state {operations : List Operation} {start : Scaffold} {walk : Walk}
    (h : walk.state = Operation.collect start operations) : walk.Follows operations start := by
  obtain ⟨hs, hf⟩ := Prod.ext_iff.1 h
  obtain ⟨before, after, handlers, hops, hmap, hstop, hcollect⟩ :=
    Operation.collect_fst_eq start operations
  have hscaffold : walk.scaffold = handlers.foldl Scaffold.add start := hs.trans hcollect
  exact {
    succeeds_iff := by
      rw [← Operation.collect_snd_eq_none_iff start operations, ← hf, state]
    fails_iff := fun failure => by
      rw [← Operation.collect_snd_eq_some_iff start operations failure, ← hf, state]
    keeps := ⟨before, after, handlers, hops, hmap, hstop,
      by rw [hscaffold, Scaffold.fragments_foldl_add],
      by rw [hscaffold, Scaffold.models_foldl_add]⟩ }

/-- **Walking is a fold over the operations in document order**: a resource's own methods, then its
children, stopping at the first failure. -/
theorem walk_follows_operations (uri : String) (segments : List Segment) (start : Scaffold)
    (log : List LogLine) :
    (∀ resource : Resource,
      (Walk.visit uri segments resource { scaffold := start, log }).Follows
        (resource.operations uri segments) start)
    ∧ ∀ resources : List Resource,
      (Walk.visitAll uri segments resources { scaffold := start, log }).Follows
        (Resource.operationsIn uri segments resources) start :=
  ⟨fun resource => Walk.follows_of_state (Walk.state_visit uri segments resource start log),
    fun resources => Walk.follows_of_state (Walk.state_visitAll uri segments resources start log)⟩

end RamlExpress
