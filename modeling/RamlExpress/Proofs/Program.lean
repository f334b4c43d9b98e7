import Mathlib.Data.List.Forall2
import RamlExpress.CommandLine.Run
import RamlExpress.Proofs.Log
import RamlExpress.Proofs.Walk

/-!
# Proofs/Program — the shape of a generated program

Every method but PATCH becomes one route, in document order.  Every model that the success response
of some method declares is declared once: in the place of the first such method, with the fields of
the last.

* `Operation.handler_eq_ok` — what an operation becomes, read off the operation alone.
* `program_shape` — the whole program.
* `Arguments.exists_text_of_collect` — its text, line by line.
-/

namespace RamlExpress

/-- The operations of an API. -/
def Api.operations (api : Api) : List Operation := Resource.operationsIn "" [] api.resources

namespace Operation

/-- **The model that an operation declares**: the fields of its success response, under the name of
its resource. -/
def model? (operation : Operation) : Option (String × FieldSchema) :=
  match Naming.resourceName? operation.segments,
    (operation.method.responseFields (operation.method.contextAt operation.uri)).result with
  | some name, .ok (some fields) => some (name, fields)
  | _, _ => none

/-- The text that the route of an operation starts with. -/
def routeStart (operation : Operation) : String :=
  "  app." ++ operation.method.verb.key ++ "('" ++ Route.patternOf operation.uri
    ++ "', function (req, res)\x7b"

/-! ## One operation -/

/-- **What an operation becomes.** -/
theorem handler_eq_ok {operation : Operation} {handler : Handler}
    (h : operation.handler = .ok handler) :
    Naming.resourceName? operation.segments = some handler.model
      ∧ (operation.method.responseFields (operation.method.contextAt operation.uri)).result
        = .ok handler.schema
      ∧ ∃ fields, handler.fragment
        = Fragment.compose operation.method.verb (Route.patternOf operation.uri) handler.model
            fields := by
  simp only [Operation.handler, Method.handlerAt, Logged.result_bind, Logged.result_of,
    Logged.result_debug, ok_bind, bind_eq_ok_iff] at h
  obtain ⟨model, hmodel, schema, hschema, hrest⟩ := h
  have hname : Naming.resourceName? operation.segments = some model := by
    unfold modelFor at hmodel
    split at hmodel <;> simp_all
  cases schema with
  | some fields =>
    obtain rfl := Except.ok.inj hrest
    exact ⟨hname, hschema, some fields, rfl⟩
  | none =>
    rw [Logged.result_bind, bind_eq_ok_iff] at hrest
    obtain ⟨fields, -, hhandler⟩ := hrest
    obtain rfl := Except.ok.inj hhandler
    exact ⟨hname, hschema, fields, rfl⟩

/-- The model that is registered is the one that the operation declares. -/
theorem registered?_eq_model? {operation : Operation} {handler : Handler}
    (h : operation.handler = .ok handler) : handler.registered? = operation.model? := by
  obtain ⟨hname, hschema, -⟩ := handler_eq_ok h
  rw [model?, hname, hschema, Handler.registered?]
  cases handler.schema <;> rfl

/-- Every template of a verb starts with the line of its route. -/
theorem compose_eq_some {verb : Verb} (hverb : verb ≠ .patch) (pattern model : String)
    (fields : Option FieldSchema) :
    ∃ rest, Fragment.compose verb pattern model fields
      = some (Template.routeLine verb.key pattern ++ rest) := by
  cases verb with
  | patch => exact absurd rfl hverb
  | get | post | put | delete =>
    simp only [Fragment.compose, Fragment.templateOf?, Option.map_some, Template.render,
      Template.lines, Template.getLines, Template.postLines, Template.putLines,
      Template.deleteLines, Template.findLines, Verb.key, List.cons_append, List.nil_append,
      String.intercalate_cons_cons, String.append_assoc]
    exact ⟨_, rfl⟩

theorem fragment_of_patch {operation : Operation} {handler : Handler}
    (h : operation.handler = .ok handler) (hverb : operation.method.verb = .patch) :
    handler.fragment = none := by
  obtain ⟨-, -, fields, hfragment⟩ := handler_eq_ok h
  rw [hfragment, hverb]
  rfl

theorem fragment_of_ne_patch {operation : Operation} {handler : Handler}
    (h : operation.handler = .ok handler) (hverb : operation.method.verb ≠ .patch) :
    ∃ rest, handler.fragment = some (operation.routeStart ++ rest) := by
  obtain ⟨-, -, fields, hfragment⟩ := handler_eq_ok h
  rw [hfragment]
  exact compose_eq_some hverb _ _ _

/-! ## All operations -/

/-- Operations and what they became declare the same models. -/
theorem filterMap_registered? {operations : List Operation} {handlers : List Handler}
    (h : operations.map handler = handlers.map .ok) :
    handlers.filterMap Handler.registered? = operations.filterMap model? := by
  induction operations generalizing handlers with
  | nil =>
    obtain rfl : handlers = [] := by simpa using h.symm
    rfl
  | cons operation rest ih =>
    cases handlers with
    | nil => simp at h
    | cons first handlers =>
      obtain ⟨hfirst, hrest⟩ := List.cons.inj h
      rw [List.filterMap_cons, List.filterMap_cons, registered?_eq_model? hfirst, ih hrest]

/-- **One route for every operation but PATCH**, in order. -/
theorem forall₂_fragments {operations : List Operation} {handlers : List Handler}
    (h : operations.map handler = handlers.map .ok) :
    List.Forall₂ (fun operation fragment => ∃ rest, fragment = operation.routeStart ++ rest)
      (operations.filter fun operation => operation.method.verb ≠ .patch)
      (handlers.filterMap (·.fragment)) := by
  induction operations generalizing handlers with
  | nil =>
    obtain rfl : handlers = [] := by simpa using h.symm
    exact .nil
  | cons operation rest ih =>
    cases handlers with
    | nil => simp at h
    | cons first handlers =>
      obtain ⟨hfirst, hrest⟩ := List.cons.inj h
      by_cases hverb : operation.method.verb = .patch
      · rw [List.filter_cons_of_neg (by simpa using hverb),
          List.filterMap_cons_none (fragment_of_patch hfirst hverb)]
        exact ih hrest
      · obtain ⟨tail, htail⟩ := fragment_of_ne_patch hfirst hverb
        rw [List.filter_cons_of_pos (by simpa using hverb), List.filterMap_cons_some htail]
        exact .cons ⟨tail, rfl⟩ (ih hrest)

end Operation

/-- **A scaffold that was collected** holds what all the operations became. -/
theorem Api.exists_handlers_of_collect {api : Api} {scaffold : Scaffold}
    (h : api.collect.result = .ok scaffold) :
    ∃ handlers : List Handler, api.operations.map Operation.handler = handlers.map .ok
      ∧ scaffold.fragments = handlers.filterMap (·.fragment)
      ∧ scaffold.models = OrderedMap.empty.insertAll (handlers.filterMap Handler.registered?) := by
  have hwalk : (Walk.visitAll "" [] api.resources {}).outcome.result = .ok scaffold := by
    simpa only [Api.collect, Logged.result_bind, Logged.result_info, Logged.result_debug,
      ok_bind, Logged.result_pure, bind_eq_ok_iff, Except.ok.injEq,
      exists_eq_right] using h
  obtain ⟨hfailure, rfl⟩ : (Walk.visitAll "" [] api.resources {}).failure = none
      ∧ (Walk.visitAll "" [] api.resources {}).scaffold = scaffold := by
    unfold Walk.outcome at hwalk
    split at hwalk <;> simp_all
  have hstate := Walk.state_visitAll "" [] api.resources {} []
  have hall : ∀ operation ∈ api.operations, operation.Succeeds :=
    (Operation.collect_snd_eq_none_iff {} _).1 ((congrArg Prod.snd hstate).symm.trans hfailure)
  obtain ⟨handlers, hmap⟩ := Operation.exists_handlers hall
  have hscaffold := congrArg Prod.fst (hstate.trans (Operation.collect_of_handlers hmap {}))
  refine ⟨handlers, hmap, ?_, ?_⟩
  · exact (congrArg Scaffold.fragments hscaffold).trans (Scaffold.fragments_foldl_add handlers {})
  · exact (congrArg Scaffold.models hscaffold).trans (Scaffold.models_foldl_add handlers {})

/-! ## The program -/

/-- **The program for an API** from which `scaffold` was collected. -/
structure Program.Shape (api : Api) (scaffold : Scaffold) : Prop where
  discovery : (api.program .discovery).result
    = .ok (header :: scaffold.models.entries.map (fun (name, fields) => declaration name fields)
        ++ scaffold.fragments ++ [footer])
  /-- The old order of the declarations is the reverse one; the routes stay. -/
  legacy : (api.program .legacy).result
    = .ok (header
        :: (scaffold.models.entries.map fun (name, fields) => declaration name fields).reverse
        ++ scaffold.fragments ++ [footer])
  routes :
    List.Forall₂ (fun operation fragment => ∃ rest, fragment = operation.routeStart ++ rest)
      (api.operations.filter fun operation => operation.method.verb ≠ .patch) scaffold.fragments
  /-- A model is declared iff some operation declares it. -/
  declared_iff : ∀ name, name ∈ scaffold.models.keys
    ↔ ∃ operation ∈ api.operations, ∃ fields, operation.model? = some (name, fields)
  declared_once : scaffold.models.keys.Nodup
  /-- It has the fields of the last operation that declares it. -/
  last : ∀ name fields, (name, fields) ∈ scaffold.models.entries
    ↔ ∃ before operation after, api.operations = before ++ operation :: after
      ∧ operation.model? = some (name, fields)
      ∧ ∀ later ∈ after, ∀ other, later.model? ≠ some (name, other)
  /-- The models stand in the order of the first operations that declare them. -/
  first : scaffold.models.keys
    = ((api.operations.filterMap Operation.model?).map Prod.fst).eraseDups
  /-- The dumps are of the same models. -/
  json : ∀ arguments : Arguments, arguments.format = .json →
    (arguments.content api).result = .ok (Registry.jsonText scaffold.models)
  yaml : ∀ arguments : Arguments, arguments.format = .yaml →
    (arguments.content api).result = .ok (Registry.yamlText scaffold.models)

theorem Program.result_program {api : Api} {scaffold : Scaffold}
    (h : api.collect.result = .ok scaffold) (order : ModelOrder) :
    (api.program order).result = .ok (Program.assemble order scaffold) := by
  simp [Api.program, h]

/-- **The shape of a generated program.**  A description whose routes and models can be collected
has a program, in both orders: the header, the declarations, the routes, the footer. -/
theorem program_shape {api : Api} {scaffold : Scaffold} (h : api.collect.result = .ok scaffold) :
    Program.Shape api scaffold := by
  obtain ⟨handlers, hmap, hfragments, hmodels⟩ := Api.exists_handlers_of_collect h
  rw [Operation.filterMap_registered? hmap] at hmodels
  have hkeys : scaffold.models.keys
      = ((api.operations.filterMap Operation.model?).map Prod.fst).eraseDups := by
    rw [hmodels, OrderedMap.keys_insertAll, OrderedMap.keys_empty, List.nil_append]
  exact {
    discovery := Program.result_program h .discovery
    legacy := Program.result_program h .legacy
    routes := hfragments ▸ Operation.forall₂_fragments hmap
    declared_iff := fun name => by
      rw [hkeys, List.mem_eraseDups, List.mem_map]
      constructor
      · rintro ⟨⟨_, fields⟩, hmem, rfl⟩
        obtain ⟨operation, hoperation, hmodel⟩ := List.mem_filterMap.1 hmem
        exact ⟨operation, hoperation, fields, hmodel⟩
      · rintro ⟨operation, hoperation, fields, hmodel⟩
        exact ⟨(name, fields), List.mem_filterMap.2 ⟨operation, hoperation, hmodel⟩, rfl⟩
    declared_once := scaffold.models.nodup_keys
    last := fun name fields => by
      rw [OrderedMap.mem_entries_iff, hmodels, OrderedMap.get?_insertAll, OrderedMap.get?_empty,
        Option.or_none, lookup_reverse_filterMap_eq_some_iff]
    first := hkeys
    json := fun arguments hformat => by simp [Arguments.content, hformat, h]
    yaml := fun arguments hformat => by simp [Arguments.content, hformat, h] }

/-! ## The text of a program -/

namespace Program

theorem render_cons (line : String) (rest : List String) :
    render (line :: rest) = line ++ "\n" ++ render rest := by
  rw [render, List.map_cons, String.join_cons, render]

/-- **The text of some lines, cut at its breaks**, gives back the lines, and nothing behind the last
of them.  A line that holds breaks itself is cut at them too. -/
theorem splitOn_render (lines : List String) :
    (render lines).toList.splitOn '\n' = lines.flatMap (·.toList.splitOn '\n') ++ [[]] := by
  induction lines with
  | nil => rfl
  | cons line rest ih =>
    have htext : (render (line :: rest)).toList = line.toList ++ '\n' :: (render rest).toList := by
      simp [render_cons]
    have hcut : (line.toList ++ '\n' :: (render rest).toList).splitOn '\n'
        = line.toList.splitOn '\n' ++ (render rest).toList.splitOn '\n' :=
      List.splitOnP_append_cons _ _ (by decide)
    rw [htext, hcut, ih, List.flatMap_cons, List.append_assoc]

end Program

/-- **The text that is written for an API**, cut at its breaks: the declarations and the routes
stand between the first line and the brace, both of which have an empty line behind them. -/
theorem Arguments.exists_text_of_collect {arguments : Arguments} {api : Api} {scaffold : Scaffold}
    (hformat : arguments.format = .program) (h : api.collect.result = .ok scaffold) :
    ∃ text, (arguments.content api).result = .ok text
      ∧ text.toList.splitOn '\n'
        = "function setupScaffold(app) \x7b".toList :: []
          :: (Program.declarations arguments.order scaffold.models ++ scaffold.fragments).flatMap
              (·.toList.splitOn '\n')
          ++ ["\x7d".toList, [], []] := by
  refine ⟨Program.render (Program.assemble arguments.order scaffold), ?_, ?_⟩
  · simp [content, hformat, Program.result_program h]
  · have hheader : Program.header.toList.splitOn '\n'
        = ["function setupScaffold(app) \x7b".toList, []] := by
      decide
    have hfooter : Program.footer.toList.splitOn '\n' = ["\x7d".toList, []] := by
      decide
    rw [Program.splitOn_render, Program.assemble, List.flatMap_append, List.flatMap_append,
      List.flatMap_cons, List.flatMap_singleton, hheader, hfooter, List.flatMap_append]
    simp

/-- A success with the schema of an object that has the given properties. -/
def objectResponse (properties : String) : Response where
  status := "200"
  body := [{
    contentType := "application/json"
    schema := some ("\x7b\"type\":\"object\",\"properties\":" ++ properties ++ "\x7d") }]

/-- A shop: `Product` is declared twice, the second time by a PATCH below another model. -/
def shopApi : Api where
  resources := [
    .atUri "/products"
      [{ verb := .get, responses := [objectResponse "\x7b\"id\":\"string\"\x7d"] }]
      [.atUri "/\x7bid\x7d" [{ verb := .delete }] []],
    .atUri "/orders"
      [{ verb := .post, responses := [objectResponse "\x7b\"total\":\"number\"\x7d"] }]
      [.atUri "/products"
        [{ verb := .patch, responses := [objectResponse "\x7b\"sku\":\"string\"\x7d"] }] []]]

theorem program_shape_shopApi :
    ∃ scaffold, shopApi.collect.result = .ok scaffold ∧ scaffold.models.keys = ["Product", "Order"]
      ∧ Program.Shape shopApi scaffold := by
  have hkeys : shopApi.collect.result.toOption.map (·.models.keys) = some ["Product", "Order"] := by
    decide +kernel
  obtain ⟨scaffold, hcollect, hseen⟩ := exists_ok_of_toOption _ hkeys
  exact ⟨scaffold, hcollect, hseen, program_shape hcollect⟩

end RamlExpress
