import Mathlib.Data.List.Nodup
import RamlExpress.Proofs.Document.Mirror
import RamlExpress.Proofs.Naming
import RamlExpress.Proofs.RequestBody

/-!
# Proofs/Variables — the variables of a generated program

    /products ──▸ var Product = new Schema(…)    var ProductModel = mongoose.model(…)

A model brings two variables, and no variable comes twice: behind its first character the name of a
model has no capital `M`, so it never ends in `Model` itself.  The names that the program needs from
outside are safe from the variables as well, but for `Schema`.

* `Naming.modelName_ne_append` — no model is called like the variable of another.
* `Api.mem_keys_iff` — which models are registered.
* `declared_variables_nodup` — no variable is declared twice.
* `declarations_capture_iff` — a declaration captures a name from outside…
* `schemas_capture_schema` — …as that for `/schemas` does.
-/

namespace RamlExpress

open Yaml (Value)

/-! ## Names of models -/

namespace Naming

/-- **No model is called like the variable of another.** -/
theorem modelName_ne_append (literal : String) {name : String} (h : name ≠ "") :
    modelName literal ≠ name ++ "Model" := by
  intro heq
  have hM := notMem_tail_modelName literal
  have hname : name.toList ≠ [] := by simpa using h
  rw [heq, String.toList_append, List.tail_append_of_ne_nil hname, List.mem_append] at hM
  exact hM (.inr (by decide))

theorem literal?_ofPiece {piece literal : String}
    (h : (Segment.ofPiece piece).literal? = some literal) : literal = piece := by
  rw [Segment.ofPiece] at h
  split at h
  · contradiction
  · exact (Option.some.inj h).symm

/-- A literal segment of a path is one of its pieces. -/
theorem mem_pathPieces_of_lastLiteral? {uri literal : String}
    (h : lastLiteral? (segmentsOf uri) = some literal) : literal ∈ pathPieces uri := by
  obtain ⟨segment, hsegment, hliteral⟩ := List.exists_of_findSome?_eq_some h
  obtain ⟨piece, hpiece, rfl⟩ := List.mem_map.1 (List.mem_reverse.1 hsegment)
  rwa [literal?_ofPiece hliteral]

end Naming

namespace Operation

/-- **An operation declares a model** under the name of its last literal segment, if its response
has fields. -/
theorem model?_eq_some_iff {operation : Operation} {name : String} {fields : FieldSchema} :
    operation.model? = some (name, fields)
      ↔ (∃ literal, Naming.lastLiteral? operation.segments = some literal
          ∧ Naming.modelName literal = name)
        ∧ operation.responseFields = .ok (some fields) := by
  rw [← Option.map_eq_some_iff]
  change _ ↔ Naming.resourceName? operation.segments = some name ∧ _
  rw [model?, responseFields]
  split
  · rename_i hname hfields
    simp [hname, hfields]
  · rename_i hnone
    simp only [reduceCtorEq, false_iff]
    rintro ⟨hname, hfields⟩
    exact hnone name fields hname hfields

end Operation

/-- **The models that are registered** are those that operations declare. -/
theorem Api.mem_keys_iff {api : Api} {scaffold : Scaffold} (h : api.collect.result = .ok scaffold)
    {name : String} : name ∈ scaffold.models.keys
      ↔ ∃ operation ∈ api.operations, ∃ fields, operation.model? = some (name, fields) := by
  obtain ⟨-, -, hmodels⟩ := Api.eq_of_collect h
  rw [hmodels, OrderedMap.keys_insertAll, OrderedMap.keys_empty, List.nil_append,
    List.mem_eraseDups, List.mem_map]
  constructor
  · rintro ⟨⟨_, fields⟩, hmem, rfl⟩
    obtain ⟨operation, hoperation, hmodel⟩ := List.mem_filterMap.1 hmem
    exact ⟨operation, hoperation, fields, hmodel⟩
  · rintro ⟨operation, hoperation, fields, hmodel⟩
    exact ⟨(name, fields), List.mem_filterMap.2 ⟨operation, hoperation, hmodel⟩, rfl⟩

/-- Every model is called after some segment… -/
theorem Api.exists_modelName_of_mem_keys {api : Api} {scaffold : Scaffold}
    (h : api.collect.result = .ok scaffold) {name : String} (hname : name ∈ scaffold.models.keys) :
    ∃ operation ∈ api.operations, ∃ literal,
      Naming.lastLiteral? operation.segments = some literal ∧ Naming.modelName literal = name := by
  obtain ⟨operation, hoperation, fields, hmodel⟩ := (Api.mem_keys_iff h).1 hname
  exact ⟨operation, hoperation, (Operation.model?_eq_some_iff.1 hmodel).1⟩

/-- …which is not empty if the API was loaded. -/
theorem Api.Loaded.ne_empty_of_mem_keys {api : Api} (hload : api.Loaded) {scaffold : Scaffold}
    (h : api.collect.result = .ok scaffold) {name : String} (hname : name ∈ scaffold.models.keys) :
    name ≠ "" := by
  obtain ⟨operation, hoperation, literal, hliteral, rfl⟩ := Api.exists_modelName_of_mem_keys h hname
  rw [hload.segments_eq hoperation] at hliteral
  exact Naming.modelName_ne_empty
    (ne_empty_of_mem_pathPieces (Naming.mem_pathPieces_of_lastLiteral? hliteral))

/-! ## Variables -/

namespace Program

/-- The variables that a model brings: one for its schema, one for itself. -/
def bindingsOf (name : String) : List String := [name, name ++ "Model"]

/-- **The variables of all declarations.** -/
def bindings (models : Registry) : List String := models.keys.flatMap bindingsOf

theorem mem_bindings {models : Registry} {bound : String} :
    bound ∈ bindings models
      ↔ ∃ name ∈ models.keys, bound = name ∨ bound = name ++ "Model" := by
  simp [bindings, bindingsOf]

/-- **A line binds the variables of a model.** -/
def Binds (name line : String) : Prop :=
  ∃ schema model, line = "  var " ++ name ++ " = new Schema(" ++ schema
    ++ "\n  var " ++ (name ++ "Model") ++ " = mongoose.model(" ++ model

theorem binds_declaration (name : String) (fields : FieldSchema) :
    Binds name (declaration name fields) := by
  refine ⟨fields.toJson.pretty definitionIndent ++ ", \x7b _id: false \x7d  );",
    "\"" ++ name ++ "\", " ++ name ++ ");", ?_⟩
  apply String.toList_inj.1
  simp [declaration, Template.render, Template.lines, Template.schemaLines,
    String.intercalate_cons_cons]

/-- One line for each model, in the order of the program. -/
theorem forall₂_binds (order : ModelOrder) (models : Registry) :
    List.Forall₂ Binds (order.arrange models.keys) (declarations order models) := by
  have hentries : List.Forall₂ Binds models.keys
      (models.entries.map fun entry => declaration entry.1 entry.2) := by
    rw [OrderedMap.keys, List.forall₂_map_left_iff, List.forall₂_map_right_iff, List.forall₂_same]
    exact fun entry _ => binds_declaration entry.1 entry.2
  cases order with
  | discovery => exact hentries
  | legacy => exact List.forall₂_reverse_iff.2 hentries

theorem exists_of_program {api : Api} {order : ModelOrder} {lines : List String}
    (h : (api.program order).result = .ok lines) :
    ∃ scaffold, api.collect.result = .ok scaffold ∧ lines = assemble order scaffold := by
  simp only [Api.program, Logged.result_bind, Logged.result_debug, ok_bind, bind_eq_ok_iff] at h
  obtain ⟨scaffold, hcollect, hlines⟩ := h
  exact ⟨scaffold, hcollect, (Except.ok.inj hlines).symm⟩

/-- Variables differ if no model is called like the variable of another. -/
theorem nodup_bindings {models : Registry}
    (h : ∀ name ∈ models.keys, ∀ other ∈ models.keys, name ≠ other ++ "Model") :
    (bindings models).Nodup := by
  refine List.nodup_flatMap.2 ⟨fun name hname => ?_, ?_⟩
  · simpa [bindingsOf] using h name hname name hname
  · refine List.Pairwise.imp_of_mem (fun {name other} hname hother hne => ?_) models.nodup_keys
    suffices hboth : other ≠ name ++ "Model" ∧ other ++ "Model" ≠ name by
      simpa [Function.onFun, bindingsOf, Ne.symm hne] using hboth
    exact ⟨h other hother name hname, (h name hname other hother).symm⟩

end Program

open Program Document

/-- **No variable is declared twice.**  Every model of a loaded API has a name, and the variables
that the declarations introduce, two for each model, are pairwise different. -/
theorem declared_variables_nodup {api : Api} (hload : api.Loaded) {scaffold : Scaffold}
    (h : api.collect.result = .ok scaffold) (order : ModelOrder) :
    (∀ name ∈ scaffold.models.keys, name ≠ "")
      ∧ List.Forall₂ Binds (order.arrange scaffold.models.keys)
        (declarations order scaffold.models)
      ∧ (bindings scaffold.models).Nodup := by
  have hnames : ∀ name ∈ scaffold.models.keys, name ≠ "" := fun _ => hload.ne_empty_of_mem_keys h
  refine ⟨hnames, forall₂_binds order scaffold.models,
    nodup_bindings fun name hname other hother => ?_⟩
  obtain ⟨-, -, literal, -, rfl⟩ := Api.exists_modelName_of_mem_keys h hname
  exact Naming.modelName_ne_append literal (hnames other hother)

/-- A resource with one method, which sends an object without fields… -/
def plainText : String :=
  "\x7bget: \x7bresponses: \x7b200: \x7bbody: \x7btype: '\x7b\"type\":\"object\"\x7d'"
    ++ "\x7d\x7d\x7d\x7d\x7d\n"

/-- …the same as a value. -/
def plainValue : Value :=
  .mapping [(.string "get", .mapping [(.string "responses", .mapping [
    (.number (.integer 200), .mapping [(.string "body", .mapping [
      (.string "type", .string "\x7b\"type\":\"object\"\x7d")])])])])]

/-- Products, and models of products that are described alike… -/
def productsText : String := "/products: &r " ++ plainText ++ "/productmodels: *r\n"

/-- …the same as the root of a document. -/
def productsRoot : List (Value × Value) :=
  [(.string "/products", plainValue), (.string "/productmodels", plainValue)]

/-- The variables of `/products` are not those of `/productmodels`. -/
theorem declared_variables_nodup_products : ∃ api scaffold,
    (Api.ofText ⟨{}, ""⟩ productsText).result = .ok api
      ∧ api.collect.result = .ok scaffold
      ∧ scaffold.models.keys = ["Product", "Productmodel"]
      ∧ (bindings scaffold.models).Nodup := by
  have htext : Value.parse productsText = .ok (.mapping productsRoot) := by decide +kernel
  have hroot : (Api.ofRoot ⟨{}, ""⟩ productsRoot).result.toOption.map
      (fun api => api.collect.result.toOption.map (·.models.keys))
      = some (some ["Product", "Productmodel"]) := by
    decide +kernel
  obtain ⟨api, hload, hcollect⟩ := exists_of_ofRoot htext _ hroot
  obtain ⟨scaffold, hscaffold, hkeys⟩ := exists_ok_of_toOption _ hcollect
  exact ⟨api, scaffold, hload, hscaffold, hkeys,
    (declared_variables_nodup (.ofText hload) hscaffold .discovery).2.2⟩

/-! ## Names from outside -/

/-- **An operation whose model is called `Schema`**, with fields to declare. -/
def Operation.DeclaresSchema (operation : Operation) : Prop :=
  (∃ literal, Naming.lastLiteral? operation.segments = some literal
    ∧ Text.toLower literal ∈ Naming.schemaWords)
  ∧ ∃ fields, operation.responseFields = .ok (some fields)

theorem Operation.declaresSchema_iff {operation : Operation} :
    operation.DeclaresSchema ↔ ∃ fields, operation.model? = some ("Schema", fields) := by
  simp only [DeclaresSchema, model?_eq_some_iff, Naming.modelName_eq_schema_iff, exists_and_left]

namespace Program

/-- **The names that a program has from outside.** -/
def freeNames : List String := ["Schema", "mongoose", "app", "console"]

/-- Only `Schema` can be the name of a model… -/
theorem eq_schema_of_modelName {name literal : String} (h : name ∈ freeNames)
    (hname : Naming.modelName literal = name) : name = "Schema" := by
  have hhead : ∀ name ∈ freeNames,
      name.toList.head?.any Char.isLower = true ∨ name = "Schema" := by
    decide
  obtain hlowered | hschema := hhead name h
  · obtain ⟨c, hc, hlower⟩ := Option.any_eq_true .. |>.1 hlowered
    rw [← hname] at hc
    exact absurd ((Naming.not_isLower_of_mem_head?_modelName hc).symm.trans hlower)
      Bool.false_ne_true
  · exact hschema

/-- …and none ends like the variable of one. -/
theorem ne_append_of_mem_freeNames {name : String} (h : name ∈ freeNames) (model : String) :
    name ≠ model ++ "Model" := by
  have hends : ∀ name ∈ freeNames, ¬"Model".toList <:+ name.toList := by decide
  rintro rfl
  exact hends _ h (by rw [String.toList_append]; exact List.suffix_append ..)

end Program

/-- **The declarations of a program capture no name from outside but `Schema`**, and that one just
if some operation declares a model after a segment such as `schemas`. -/
theorem declarations_capture_iff {api : Api} {order : ModelOrder} {lines : List String}
    (h : (api.program order).result = .ok lines) :
    ∃ scaffold, api.collect.result = .ok scaffold ∧ lines = assemble order scaffold
      ∧ ∀ name ∈ freeNames, name ∈ bindings scaffold.models
        ↔ name = "Schema" ∧ ∃ operation ∈ api.operations, operation.DeclaresSchema := by
  obtain ⟨scaffold, hcollect, hlines⟩ := exists_of_program h
  refine ⟨scaffold, hcollect, hlines, fun name hname => ?_⟩
  simp only [Operation.declaresSchema_iff, ← Api.mem_keys_iff hcollect, mem_bindings]
  constructor
  · rintro ⟨model, hmodel, rfl | hvariable⟩
    · obtain ⟨-, -, literal, -, hliteral⟩ := Api.exists_modelName_of_mem_keys hcollect hmodel
      obtain rfl := eq_schema_of_modelName hname hliteral
      exact ⟨rfl, hmodel⟩
    · exact absurd hvariable (ne_append_of_mem_freeNames hname model)
  · rintro ⟨rfl, hmodel⟩
    exact ⟨"Schema", hmodel, .inl rfl⟩

/-- An archive of schemas, each by itself. -/
def archiveApi : Api where
  resources := [.atUri "/Schemas/\x7bid\x7d"
    [{ verb := .get, responses := [objectResponse "\x7b\"id\":\"string\"\x7d"] }] []]

/-- Neither capital nor parameter keeps the archive from capturing `Schema`. -/
theorem declarations_capture_iff_archiveApi :
    ∃ scaffold, archiveApi.collect.result = .ok scaffold ∧ "Schema" ∈ bindings scaffold.models
      ∧ "app" ∉ bindings scaffold.models
      ∧ ∃ operation ∈ archiveApi.operations, operation.DeclaresSchema := by
  have hcollect : archiveApi.collect.result.toOption.map (·.models.keys) = some ["Schema"] := by
    decide +kernel
  obtain ⟨scaffold, hscaffold, hkeys⟩ := exists_ok_of_toOption _ hcollect
  have hschema : "Schema" ∈ bindings scaffold.models :=
    mem_bindings.2 ⟨"Schema", by simp [hkeys], .inl rfl⟩
  obtain ⟨other, hother, -, hiff⟩ := declarations_capture_iff (result_program hscaffold .discovery)
  obtain rfl : scaffold = other := Except.ok.inj (hscaffold.symm.trans hother)
  refine ⟨scaffold, hscaffold, hschema, fun happ => ?_, ((hiff "Schema" (by decide)).1 hschema).2⟩
  exact absurd ((hiff "app" (by decide)).1 happ).1 (by decide)

/-- **The declaration for `/schemas` captures the name it is made with.** -/
theorem schemas_capture_schema : ∃ api lines,
    (Api.ofText ⟨{}, ""⟩ ("/schemas: " ++ plainText)).result = .ok api
      ∧ (api.program .discovery).result = .ok lines
      ∧ "  var Schema = new Schema(\x7b\x7d, \x7b _id: false \x7d  );\n"
        ++ "  var SchemaModel = mongoose.model(\"Schema\", Schema);" ∈ lines := by
  have htext : Value.parse ("/schemas: " ++ plainText)
      = .ok (.mapping [(.string "/schemas", plainValue)]) := by
    decide +kernel
  have hroot : (Api.ofRoot ⟨{}, ""⟩ [(.string "/schemas", plainValue)]).result.toOption.map
      (fun api => (api.program .discovery).result.toOption.map (·[1]?))
      = some (some (some ("  var Schema = new Schema(\x7b\x7d, \x7b _id: false \x7d  );\n"
        ++ "  var SchemaModel = mongoose.model(\"Schema\", Schema);"))) := by
    decide +kernel
  obtain ⟨api, hload, hprogram⟩ := exists_of_ofRoot htext _ hroot
  obtain ⟨lines, hlines, hline⟩ := exists_ok_of_toOption _ hprogram
  exact ⟨api, lines, hload, hlines, List.mem_of_getElem? hline⟩

end RamlExpress
