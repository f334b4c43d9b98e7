import RamlExpress.Proofs.Uri
import RamlExpress.Proofs.Walk

/-!
# Proofs/Nesting — nesting resources is only notation

A forest and the flat list of its resources at their absolute paths have the same operations, so
they are walked alike.  A walk carries the path twice, as text and as segments; the two never part
because the segments of a path that goes on with a slash are those of its two halves
(`segmentsOf_append`).

* `operationsIn_flatIn` — the operations of the flat list are those of the forest.
* `walk_flatIn` — …and so is what a walk collects, and its failure.
-/

namespace RamlExpress

/-! ## Flat lists of resources -/

namespace Resource

/-- A resource whose path, and that of every resource below it, starts with a slash and has the
segments that go with it. -/
inductive Rooted : Resource → Prop
  | atUri {uri : String} {methods : List Method} {children : List Resource} :
    StartsWithSlash uri → (∀ child ∈ children, Rooted child) → Rooted (.atUri uri methods children)

mutual

/-- **A resource and all below it, without nesting**: each by itself at its absolute path. -/
def flat (uri : String) : Resource → List Resource
  | .mk relative _ methods children =>
    .atUri (uri ++ relative) methods [] :: flatIn (uri ++ relative) children

/-- Resources and all below them, without nesting. -/
def flatIn (uri : String) : List Resource → List Resource
  | [] => []
  | resource :: rest => flat uri resource ++ flatIn uri rest

end

theorem operationsIn_append (uri : String) (segments : List Segment)
    (first second : List Resource) :
    operationsIn uri segments (first ++ second)
      = operationsIn uri segments first ++ operationsIn uri segments second := by
  induction first with
  | nil => rfl
  | cons resource rest ih => simp only [List.cons_append, operationsIn, ih, List.append_assoc]

theorem operationsIn_atUri (uri : String) (methods : List Method) :
    operationsIn "" [] [atUri uri methods []]
      = methods.map (Operation.mk uri (segmentsOf uri)) := by
  simp [operationsIn, operations, atUri]

/-- What holds of the operations of each resource holds of those of a list. -/
theorem operationsIn_flatIn_of {uri : String} (segments : List Segment) {resources : List Resource}
    (h : ∀ resource ∈ resources,
      operationsIn "" [] (flat uri resource) = resource.operations uri segments) :
    operationsIn "" [] (flatIn uri resources) = operationsIn uri segments resources := by
  induction resources with
  | nil => rfl
  | cons resource rest ih =>
    obtain ⟨hfirst, hrest⟩ := List.forall_mem_cons.1 h
    simp only [flatIn, operationsIn, operationsIn_append, hfirst, ih hrest]

/-- **The flat list of a resource has its operations**, at any path whose segments are known. -/
theorem operationsIn_flat {resource : Resource} (h : resource.Rooted) (uri : String) :
    operationsIn "" [] (flat uri resource) = resource.operations uri (segmentsOf uri) := by
  induction h generalizing uri with
  | @atUri relative methods children hslash _ ih =>
    have hchildren := operationsIn_flatIn_of (segmentsOf (uri ++ relative))
      fun child hchild => ih child hchild (uri ++ relative)
    rw [atUri, flat, ← List.singleton_append, operationsIn_append, operationsIn_atUri, hchildren,
      operations, segmentsOf_append hslash]

theorem operationsIn_flatIn {resources : List Resource}
    (h : ∀ resource ∈ resources, resource.Rooted) :
    operationsIn "" [] (flatIn "" resources) = operationsIn "" [] resources :=
  operationsIn_flatIn_of [] fun resource hresource => operationsIn_flat (h resource hresource) ""

theorem mem_operationsIn {operation : Operation} {uri : String} {segments : List Segment}
    {resources : List Resource} :
    operation ∈ operationsIn uri segments resources
      ↔ ∃ resource ∈ resources, operation ∈ resource.operations uri segments := by
  induction resources with
  | nil => simp [operationsIn]
  | cons resource rest ih => simp [operationsIn, ih]

/-- **The two forms of the path never part**: the segments carried down a tree are those of the
path carried down it. -/
theorem segments_of_mem_operations {resource : Resource} (h : resource.Rooted) {uri : String}
    {operation : Operation} (hmem : operation ∈ resource.operations uri (segmentsOf uri)) :
    operation.segments = segmentsOf operation.uri := by
  induction h generalizing uri with
  | @atUri relative methods children hslash _ ih =>
    rw [atUri, operations, ← segmentsOf_append hslash, List.mem_append] at hmem
    rcases hmem with hown | hbelow
    · obtain ⟨method, -, rfl⟩ := List.mem_map.1 hown
      rfl
    · obtain ⟨child, hchild, hop⟩ := mem_operationsIn.1 hbelow
      exact ih child hchild hop

end Resource

/-- **Nesting is only notation.**  A forest and the flat list of its resources at their absolute
paths are walked alike from any start, and every operation of the forest has the segments of its
path. -/
theorem walk_flatIn {forest : List Resource} (h : ∀ resource ∈ forest, resource.Rooted)
    (start : Scaffold) (log : List LogLine) :
    let nested := Walk.visitAll "" [] forest { scaffold := start, log }
    let flat := Walk.visitAll "" [] (Resource.flatIn "" forest) { scaffold := start, log }
    nested.failure = flat.failure
      ∧ nested.scaffold.fragments = flat.scaffold.fragments
      ∧ nested.scaffold.models = flat.scaffold.models
      ∧ ∀ operation ∈ Resource.operationsIn "" [] forest,
          operation.segments = segmentsOf operation.uri := by
  intro nested flat
  have hstate : nested.state = flat.state := by
    rw [Walk.state_visitAll, Walk.state_visitAll, Resource.operationsIn_flatIn h]
  obtain ⟨hscaffold, hfailure⟩ := Prod.mk.inj hstate
  refine ⟨hfailure, by rw [hscaffold], by rw [hscaffold], fun operation hmem => ?_⟩
  obtain ⟨resource, hresource, hop⟩ := Resource.mem_operationsIn.1 hmem
  exact Resource.segments_of_mem_operations (h resource hresource) hop

/-- Doubled and trailing slashes, a key of several segments and a parameter, two levels deep. -/
def nestedStores : List Resource :=
  [.atUri "/stores//\x7bstoreId\x7d/" [{ verb := .get }]
    [.atUri "/items/" [{ verb := .delete }] [.atUri "/\x7bid\x7d" [{ verb := .put }] []]]]

theorem rooted_nestedStores : ∀ resource ∈ nestedStores, resource.Rooted := by
  simp only [nestedStores, List.forall_mem_singleton]
  refine .atUri (by decide) (List.forall_mem_singleton.2 (.atUri (by decide)
    (List.forall_mem_singleton.2 (.atUri (by decide) (by simp)))))

theorem walk_flatIn_nestedStores :
    (∀ resource ∈ nestedStores, resource.Rooted)
    ∧ (Walk.visitAll "" [] nestedStores {}).failure
        = (Walk.visitAll "" [] (Resource.flatIn "" nestedStores) {}).failure
    ∧ (Walk.visitAll "" [] nestedStores {}).scaffold.fragments
        = (Walk.visitAll "" [] (Resource.flatIn "" nestedStores) {}).scaffold.fragments :=
  ⟨rooted_nestedStores, (walk_flatIn rooted_nestedStores {} []).1,
    (walk_flatIn rooted_nestedStores {} []).2.1⟩

end RamlExpress
