import RamlExpress.Proofs.Program

/-!
# Proofs/RequestBody — what a request body can and cannot change

Two descriptions that differ in their request bodies alone collect the same models.  Their routes
differ at most where a POST or PUT has no fields in its success response, since only there the
fields of the request are looked at and written into the route.

* `Operation.handler_eq_of_ignoresBody` — most operations do not look at their request body at all.
* `Operation.fragment?_eq_of_not_showsBody` — …and few show it in their route.
* `collect_of_bodiless_eq` — both, for a whole description.
-/

namespace RamlExpress

/-! ## Descriptions without their request bodies -/

/-- A method without its request body. -/
def Method.bodiless (method : Method) : Method := { method with body := [] }

mutual

/-- **A resource without the request bodies** of its methods and of all below it. -/
def Resource.bodiless : Resource → Resource
  | .mk uri segments methods children =>
    .mk uri segments (methods.map Method.bodiless) (bodilessIn children)

/-- Resources without their request bodies. -/
def Resource.bodilessIn : List Resource → List Resource
  | [] => []
  | resource :: rest => resource.bodiless :: bodilessIn rest

end

/-- A description without its request bodies. -/
def Api.bodiless (api : Api) : Api := { api with resources := Resource.bodilessIn api.resources }

/-- An operation without its request body. -/
def Operation.bodiless (operation : Operation) : Operation :=
  { operation with method := operation.method.bodiless }

mutual

theorem Resource.operations_bodiless (uri : String) (segments : List Segment) :
    ∀ resource : Resource, resource.bodiless.operations uri segments
      = (resource.operations uri segments).map Operation.bodiless
  | .mk relative own methods children => by
    rw [bodiless, operations, operations, operationsIn_bodiless, List.map_append, List.map_map,
      List.map_map]
    rfl

theorem Resource.operationsIn_bodiless (uri : String) (segments : List Segment) :
    ∀ resources : List Resource, operationsIn uri segments (bodilessIn resources)
      = (operationsIn uri segments resources).map Operation.bodiless
  | [] => rfl
  | resource :: rest => by
    rw [bodilessIn, operationsIn, operationsIn, operations_bodiless, operationsIn_bodiless,
      List.map_append]

end

theorem Api.map_bodiless_operations {api other : Api} (h : api.bodiless = other.bodiless) :
    api.operations.map Operation.bodiless = other.operations.map Operation.bodiless := by
  have hresources : Resource.bodilessIn api.resources = Resource.bodilessIn other.resources :=
    congrArg Api.resources h
  rw [operations, operations, ← Resource.operationsIn_bodiless, hresources,
    Resource.operationsIn_bodiless]

namespace Operation

/-! ## One operation -/

/-- The fields that the success response of an operation declares. -/
def responseFields (operation : Operation) : Except Failure (Option FieldSchema) :=
  (operation.method.responseFields (operation.method.contextAt operation.uri)).result

/-- The fields that its request body declares. -/
def requestFields (operation : Operation) : Except Failure (Option FieldSchema) :=
  (operation.method.requestFields (operation.method.contextAt operation.uri)).result

/-- **An operation that has no use for its request body**: one whose verb has none, or one that has
fields in its success response. -/
def IgnoresBody (operation : Operation) : Prop :=
  operation.method.verb = .get ∨ operation.method.verb = .delete
    ∨ ∃ fields, operation.responseFields = .ok (some fields)

/-- **An operation whose route shows its request body**: a POST or PUT without fields in its success
response. -/
def ShowsBody (operation : Operation) : Prop :=
  (operation.method.verb = .post ∨ operation.method.verb = .put)
    ∧ operation.responseFields = .ok none

/-- The code that an operation becomes. -/
def fragment? (operation : Operation) : Option String :=
  operation.handler.toOption.bind (·.fragment)

/-- The fields of a route: those of the response, or else those of the request. -/
def routeFields (operation : Operation) : Option FieldSchema → Except Failure (Option FieldSchema)
  | some fields => .ok (some fields)
  | none => operation.requestFields

theorem handler_eq (operation : Operation) :
    operation.handler = (do
      let model ← modelFor operation.segments
      let schema ← operation.responseFields
      let fields ← operation.routeFields schema
      .ok {
        verb := operation.method.verb, pattern := Route.patternOf operation.uri, model
        fragment := Fragment.compose operation.method.verb (Route.patternOf operation.uri) model
          fields
        schema }) := by
  simp only [handler, Method.handlerAt, Logged.result_bind, Logged.result_of, Logged.result_debug,
    ok_bind, responseFields]
  congr 1
  funext model
  congr 1
  funext schema
  cases schema with
  | some fields => rfl
  | none => rw [Logged.result_bind]; rfl

section Bodiless

variable {operation other : Operation} (h : operation.bodiless = other.bodiless)

include h

theorem verb_of_bodiless_eq : operation.method.verb = other.method.verb :=
  (congrArg (fun operation : Operation => operation.method.verb) h :)

theorem uri_of_bodiless_eq : operation.uri = other.uri := (congrArg Operation.uri h :)

theorem segments_of_bodiless_eq : operation.segments = other.segments :=
  (congrArg Operation.segments h :)

/-- The request body has no part in the fields of the response. -/
theorem responseFields_of_bodiless_eq : operation.responseFields = other.responseFields :=
  (congrArg responseFields h :)

/-- With the same request body it is the same operation. -/
theorem eq_of_bodiless_eq (hbody : operation.method.body = other.method.body) :
    operation = other := by
  obtain ⟨uri, segments, verb, body, responses⟩ := operation
  obtain ⟨uri', segments', verb', body', responses'⟩ := other
  simp only [bodiless, Method.bodiless, mk.injEq, Method.mk.injEq, true_and] at h
  obtain ⟨rfl, rfl, rfl, rfl⟩ := h
  obtain rfl : body = body' := hbody
  rfl

/-- **Where the request body is ignored, nothing depends on it**, not even a failure. -/
theorem handler_eq_of_ignoresBody (hignores : operation.IgnoresBody) :
    operation.handler = other.handler := by
  have hfields : ∀ schema, operation.responseFields = .ok schema →
      operation.routeFields schema = other.routeFields schema := by
    rintro (_ | fields) hschema
    · have hverb : operation.method.verb.hasRequestBody = false := by
        rcases hignores with hget | hdelete | ⟨fields, hfields⟩
        · rw [hget]; rfl
        · rw [hdelete]; rfl
        · exact nomatch hfields.symm.trans hschema
      have hverb' := hverb
      rw [verb_of_bodiless_eq h] at hverb'
      simp [routeFields, requestFields, Method.requestFields, hverb, hverb']
    · rfl
  rw [handler_eq, handler_eq, ← segments_of_bodiless_eq h, ← uri_of_bodiless_eq h,
    ← verb_of_bodiless_eq h, ← responseFields_of_bodiless_eq h]
  congr 1
  funext model
  cases hschema : operation.responseFields with
  | error failure => rfl
  | ok schema => rw [ok_bind, ok_bind, hfields schema hschema]

/-- **A request body changes nothing but the fields of a route** that shows it. -/
theorem fragment?_eq_of_not_showsBody (hsucceeds : operation.Succeeds)
    (hsucceeds' : other.Succeeds) (hshows : ¬operation.ShowsBody) :
    operation.fragment? = other.fragment? := by
  obtain ⟨handler, hok⟩ := hsucceeds
  obtain ⟨handler', hok'⟩ := hsucceeds'
  rw [fragment?, fragment?, hok, hok']
  rw [handler_eq] at hok hok'
  rw [← segments_of_bodiless_eq h, ← uri_of_bodiless_eq h, ← verb_of_bodiless_eq h,
    ← responseFields_of_bodiless_eq h] at hok'
  simp only [bind_eq_ok_iff] at hok hok'
  obtain ⟨model, hmodel, schema, hschema, fields, hfields, heq⟩ := hok
  obtain ⟨model', hmodel', schema', hschema', fields', hfields', heq'⟩ := hok'
  obtain rfl := Except.ok.inj (hmodel.symm.trans hmodel')
  obtain rfl := Except.ok.inj (hschema.symm.trans hschema')
  obtain rfl := Except.ok.inj heq
  obtain rfl := Except.ok.inj heq'
  cases schema with
  | some found =>
    obtain rfl := Except.ok.inj hfields
    obtain rfl := Except.ok.inj hfields'
    rfl
  | none =>
    -- The templates of the other verbs have no place for fields.
    cases hverb : operation.method.verb with
    | post => exact absurd ⟨.inl hverb, hschema⟩ hshows
    | put => exact absurd ⟨.inr hverb, hschema⟩ hshows
    | get | patch | delete => rfl

end Bodiless

/-! ## All operations -/

/-- What operations become is all that is collected of them. -/
theorem collect_eq_of_map_handler {operations others : List Operation}
    (h : operations.map handler = others.map handler) (start : Scaffold) :
    collect start operations = collect start others := by
  induction operations generalizing others start with
  | nil =>
    obtain rfl : others = [] := by simpa using h.symm
    rfl
  | cons operation rest ih =>
    cases others with
    | nil => simp at h
    | cons other others =>
      obtain ⟨hfirst, hrest⟩ := List.cons.inj h
      rw [collect, collect, ← hfirst]
      cases operation.handler with
      | ok handler => exact ih hrest (start.add handler)
      | error failure => rfl

/-- The operations that become a route: all but PATCH. -/
def routed (operations : List Operation) : List Operation :=
  operations.filter fun operation => operation.method.verb ≠ .patch

theorem map_bodiless_routed (operations : List Operation) :
    (routed operations).map bodiless = routed (operations.map bodiless) := by
  rw [routed, routed, List.filter_map]
  rfl

/-- **Operations that succeed have one route each**, PATCH apart. -/
theorem map_fragment?_routed {operations : List Operation}
    (h : ∀ operation ∈ operations, operation.Succeeds) :
    (routed operations).map fragment? = (operations.filterMap fragment?).map some := by
  induction operations with
  | nil => rfl
  | cons operation rest ih =>
    obtain ⟨⟨handler, hok⟩, hrest⟩ := List.forall_mem_cons.1 h
    have hfragment : operation.fragment? = handler.fragment := by
      rw [fragment?, hok]
      rfl
    by_cases hverb : operation.method.verb = .patch
    · rw [fragment_of_patch hok hverb] at hfragment
      rw [routed, List.filter_cons_of_neg (by simpa using hverb),
        List.filterMap_cons_none hfragment]
      exact ih hrest
    · obtain ⟨tail, htail⟩ := fragment_of_ne_patch hok hverb
      rw [htail] at hfragment
      rw [routed, List.filter_cons_of_pos (by simpa using hverb),
        List.filterMap_cons_some hfragment, List.map_cons, List.map_cons, hfragment]
      exact congrArg _ (ih hrest)

theorem length_filterMap_fragment? {operations : List Operation}
    (h : ∀ operation ∈ operations, operation.Succeeds) :
    (operations.filterMap fragment?).length = (routed operations).length := by
  simpa using (congrArg List.length (map_fragment?_routed h)).symm

theorem getElem?_filterMap_fragment? {operations : List Operation}
    (h : ∀ operation ∈ operations, operation.Succeeds) (i : Nat) :
    (operations.filterMap fragment?)[i]? = (routed operations)[i]?.bind fragment? := by
  have hmap := congrArg (·[i]?) (map_fragment?_routed h)
  simp only [List.getElem?_map] at hmap
  cases hop : (routed operations)[i]? <;> cases hfragment : (operations.filterMap fragment?)[i]? <;>
    simp_all

section Bodiless

variable {operations others : List Operation}
  (h : operations.map bodiless = others.map bodiless)

include h

/-- **The models do not depend on request bodies.** -/
theorem filterMap_model?_of_bodiless_eq :
    operations.filterMap model? = others.filterMap model? := by
  have hmodels : ∀ operations : List Operation,
      operations.filterMap model? = (operations.map bodiless).filterMap model? := by
    intro operations
    rw [List.filterMap_map]
    rfl
  rw [hmodels operations, h, ← hmodels others]

/-- …nor does the number of routes… -/
theorem length_routed_of_bodiless_eq : (routed operations).length = (routed others).length := by
  rw [← List.length_map bodiless, map_bodiless_routed, h, ← map_bodiless_routed, List.length_map]

/-- …nor most of the routes. -/
theorem showsBody_of_fragment?_ne (hsucceed : ∀ operation ∈ operations, operation.Succeeds)
    (hsucceed' : ∀ operation ∈ others, operation.Succeeds) {i : Nat}
    (hne : (operations.filterMap fragment?)[i]? ≠ (others.filterMap fragment?)[i]?) :
    ∃ operation, (routed operations)[i]? = some operation
      ∧ operation.fragment? = (operations.filterMap fragment?)[i]? ∧ operation.ShowsBody := by
  have hpair : (routed operations)[i]?.map bodiless = (routed others)[i]?.map bodiless := by
    rw [← List.getElem?_map, ← List.getElem?_map, map_bodiless_routed, map_bodiless_routed, h]
  rw [getElem?_filterMap_fragment? hsucceed, getElem?_filterMap_fragment? hsucceed'] at hne
  rw [getElem?_filterMap_fragment? hsucceed]
  cases hop : (routed operations)[i]? with
  | none =>
    rw [hop, Option.map_none, eq_comm, Option.map_eq_none_iff] at hpair
    rw [hop, hpair] at hne
    exact absurd rfl hne
  | some operation =>
    rw [hop, Option.map_some, eq_comm, Option.map_eq_some_iff] at hpair
    obtain ⟨other, hother, hbodiless⟩ := hpair
    have hmem := List.mem_of_getElem? hop
    have hmem' := List.mem_of_getElem? hother
    refine ⟨operation, rfl, rfl, by_contra fun hshows => hne ?_⟩
    rw [hop, hother]
    exact fragment?_eq_of_not_showsBody hbodiless.symm (hsucceed _ (List.mem_filter.1 hmem).1)
      (hsucceed' _ (List.mem_filter.1 hmem').1) hshows

/-- **Bodies that differ only where they are ignored change nothing.** -/
theorem map_handler_of_ignoresBody
    (hignores : ∀ pair ∈ operations.zip others,
      pair.1.method.body ≠ pair.2.method.body → pair.1.IgnoresBody) :
    operations.map handler = others.map handler := by
  induction operations generalizing others with
  | nil =>
    obtain rfl : others = [] := by simpa using h.symm
    rfl
  | cons operation rest ih =>
    cases others with
    | nil => simp at h
    | cons other others =>
      obtain ⟨hfirst, hrest⟩ := List.cons.inj h
      rw [List.zip_cons_cons] at hignores
      obtain ⟨hpair, hpairs⟩ := List.forall_mem_cons.1 hignores
      rw [List.map_cons, List.map_cons, ih hrest hpairs]
      congr 1
      by_cases hbody : operation.method.body = other.method.body
      · rw [eq_of_bodiless_eq hfirst hbody]
      · exact handler_eq_of_ignoresBody hfirst (hpair hbody)

end Bodiless

end Operation

/-! ## A whole description -/

/-- What is collected from an API, by its operations. -/
theorem Api.result_collect (api : Api) :
    api.collect.result = match Operation.collect {} api.operations with
      | (scaffold, none) => .ok scaffold
      | (_, some failure) => .error failure := by
  rw [operations, ← Walk.state_visitAll "" [] api.resources {} []]
  simp only [collect, Logged.result_bind, Walk.outcome, Walk.state]
  cases (Walk.visitAll "" [] api.resources {}).failure with
  | none => simp
  | some failure => simp [error_bind]

/-- A scaffold that was collected, by the operations. -/
theorem Api.eq_of_collect {api : Api} {scaffold : Scaffold}
    (h : api.collect.result = .ok scaffold) :
    (∀ operation ∈ api.operations, operation.Succeeds)
      ∧ scaffold.fragments = api.operations.filterMap Operation.fragment?
      ∧ scaffold.models
        = OrderedMap.empty.insertAll (api.operations.filterMap Operation.model?) := by
  obtain ⟨handlers, hmap, hfragments, hmodels⟩ := exists_handlers_of_collect h
  refine ⟨fun operation hmem => ?_, ?_, ?_⟩
  · have hhandler := List.mem_map_of_mem (f := Operation.handler) hmem
    rw [hmap] at hhandler
    obtain ⟨handler, -, hok⟩ := List.mem_map.1 hhandler
    exact ⟨handler, hok.symm⟩
  · have hmapped : api.operations.filterMap Operation.fragment?
        = (api.operations.map Operation.handler).filterMap fun result =>
            result.toOption.bind (·.fragment) := by
      rw [List.filterMap_map]
      rfl
    rw [hfragments, hmapped, hmap, List.filterMap_map]
    rfl
  · rw [hmodels, Operation.filterMap_registered? hmap]

/-- **Request bodies never reach the models.**  Two descriptions that differ in their request bodies
alone, if both can be collected, have the same models and as many routes, and the routes differ only
where they show the fields of a request.  Where every body that differs is ignored, the two are
collected alike, or fail alike. -/
theorem collect_of_bodiless_eq {api other : Api} (h : api.bodiless = other.bodiless) :
    (∀ scaffold scaffold', api.collect.result = .ok scaffold →
        other.collect.result = .ok scaffold' →
      scaffold.models = scaffold'.models
      ∧ scaffold.fragments.length = scaffold'.fragments.length
      ∧ ∀ i : Nat, scaffold.fragments[i]? ≠ scaffold'.fragments[i]? →
          ∃ operation : Operation, (Operation.routed api.operations)[i]? = some operation
            ∧ operation.fragment? = scaffold.fragments[i]? ∧ operation.ShowsBody)
    ∧ ((∀ pair ∈ api.operations.zip other.operations,
          pair.1.method.body ≠ pair.2.method.body → pair.1.IgnoresBody) →
        api.collect.result = other.collect.result) := by
  have hoperations := Api.map_bodiless_operations h
  refine ⟨fun scaffold scaffold' hcollect hcollect' => ?_, fun hignores => ?_⟩
  · obtain ⟨hsucceed, hfragments, hmodels⟩ := Api.eq_of_collect hcollect
    obtain ⟨hsucceed', hfragments', hmodels'⟩ := Api.eq_of_collect hcollect'
    refine ⟨?_, ?_, fun i hne => ?_⟩
    · rw [hmodels, hmodels', Operation.filterMap_model?_of_bodiless_eq hoperations]
    · rw [hfragments, hfragments', Operation.length_filterMap_fragment? hsucceed,
        Operation.length_filterMap_fragment? hsucceed',
        Operation.length_routed_of_bodiless_eq hoperations]
    · rw [hfragments, hfragments'] at hne
      rw [hfragments]
      exact Operation.showsBody_of_fragment?_ne hoperations hsucceed hsucceed' hne
  · rw [Api.result_collect, Api.result_collect,
      Operation.collect_eq_of_map_handler
        (Operation.map_handler_of_ignoresBody hoperations hignores)]

/-- A request body with a schema. -/
def requestBody (schema : String) : List MediaType :=
  [{ contentType := "application/json", schema := some schema }]

/-- A desk that lists tickets and takes new ones, of which the answer shows nothing. -/
def deskApi (list store : List MediaType) : Api where
  resources := [
    .atUri "/tickets" [
      { verb := .get, body := list, responses := [objectResponse "\x7b\"id\":\"string\"\x7d"] },
      { verb := .post, body := store, responses := [{ status := "201" }] }] []]

/-- A new ticket with the given field. -/
def ticketBody (field : String) : List MediaType :=
  requestBody ("\x7b\"type\":\"object\",\"properties\":\x7b\"" ++ field
    ++ "\":\"string\"\x7d\x7d")

/-- A broken schema does no harm in the body of a GET; another field in that of the POST shows in
its route and nowhere else. -/
theorem collect_of_bodiless_eq_desk :
    (∃ scaffold scaffold', (deskApi [] (ticketBody "title")).collect.result = .ok scaffold
      ∧ (deskApi (requestBody "\x7b") (ticketBody "note")).collect.result = .ok scaffold'
      ∧ scaffold.models = scaffold'.models
      ∧ scaffold.fragments.length = scaffold'.fragments.length
      ∧ scaffold.fragments ≠ scaffold'.fragments)
    ∧ (deskApi [] (ticketBody "title")).collect.result
      = (deskApi (requestBody "\x7b") (ticketBody "title")).collect.result := by
  have hsame (list list' store store' : List MediaType) :
      (deskApi list store).bodiless = (deskApi list' store').bodiless := rfl
  constructor
  · have hfragments :
        (deskApi [] (ticketBody "title")).collect.result.toOption.map (·.fragments)
          ≠ (deskApi (requestBody "\x7b") (ticketBody "note")).collect.result.toOption.map
              (·.fragments) := by
      decide +kernel
    have hboth : (deskApi [] (ticketBody "title")).collect.result.toOption.map (fun _ => ())
          = some ()
        ∧ (deskApi (requestBody "\x7b") (ticketBody "note")).collect.result.toOption.map
            (fun _ => ()) = some () := by
      decide +kernel
    obtain ⟨scaffold, hfirst, -⟩ := exists_ok_of_toOption _ hboth.1
    obtain ⟨scaffold', hsecond, -⟩ := exists_ok_of_toOption _ hboth.2
    obtain ⟨hmodels, hlength, -⟩ := (collect_of_bodiless_eq
      (hsame [] (requestBody "\x7b") (ticketBody "title") (ticketBody "note"))).1
      scaffold scaffold' hfirst hsecond
    rw [hfirst, hsecond] at hfragments
    exact ⟨scaffold, scaffold', hfirst, hsecond, hmodels, hlength,
      fun heq => hfragments (congrArg some heq)⟩
  · refine (collect_of_bodiless_eq (hsame ..)).2 fun pair hmem hbody => ?_
    have hpairs : pair.1.method.verb = .get ∨ pair.1.method.body = pair.2.method.body := by
      revert pair
      exact List.forall_mem_cons.2
        ⟨fun _ => .inl rfl, List.forall_mem_singleton.2 fun _ => .inr rfl⟩
    exact hpairs.elim .inl fun heq => absurd heq hbody

end RamlExpress
