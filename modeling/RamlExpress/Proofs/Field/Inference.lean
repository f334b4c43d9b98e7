import RamlExpress.Field.Inference
import RamlExpress.Proofs.Json.Brackets
import RamlExpress.Proofs.Log
import RamlExpress.Proofs.OrderedMap

/-!
# Proofs/Field/Inference — the fields of a schema, all at once

The properties of a schema go into a map of fields, and the listed names are marked in it.  Marking
fails only at a name that is no property; it changes nothing but the marks.

* `Field.markRequired_eq_ok` — the marks, if all the names are there.
* `Field.infer_eq_ok` — the fields of a schema whose listed names are properties.
-/

namespace RamlExpress.Field

/-- The fields of some properties are a map of the fields of each. -/
theorem ofProperties_eq (properties : List (String × Json)) :
    ofProperties properties
      = .ofEntries
        (properties.map fun property => (property.1, ofProperty property.1 property.2)) := by
  rw [ofProperties, OrderedMap.ofEntries, OrderedMap.insertAll, List.foldl_map]

theorem keys_ofProperties (properties : List (String × Json)) :
    (ofProperties properties).keys = (properties.map Prod.fst).eraseDups := by
  rw [ofProperties_eq, OrderedMap.keys_ofEntries]
  simp [Function.comp_def]

/-- A field, marked if its name is listed. -/
def marked (names : List String) (entry : String × Field) : String × Field :=
  (entry.1, { entry.2 with required := entry.2.required || decide (entry.1 ∈ names) })

/-- Marking one name changes its field and no other. -/
theorem entries_insert_required {fields : FieldSchema} {name : String} {field : Field}
    (h : fields.get? name = some field) :
    (fields.insert name { field with required := true }).entries
      = fields.entries.map (marked [name]) := by
  have hmem : (name, field) ∈ fields.entries := OrderedMap.mem_entries_iff.2 h
  rw [OrderedMap.entries_insert, putEntry_of_mem _ fields.nodup_keys (List.mem_map_of_mem hmem)]
  refine List.map_congr_left fun entry hentry => ?_
  by_cases hname : entry.1 = name
  · have hfield : entry.2 = field := by
      have hget :=
        OrderedMap.mem_entries_iff.1 (show (entry.1, entry.2) ∈ fields.entries from hentry)
      rw [hname, h] at hget
      exact (Option.some.inj hget).symm
    simp [marked, hname, hfield]
  · simp [marked, hname]

/-- …and no name. -/
theorem keys_insert_required {fields : FieldSchema} {name : String} {field : Field}
    (h : fields.get? name = some field) :
    (fields.insert name { field with required := true }).keys = fields.keys := by
  rw [OrderedMap.keys, entries_insert_required h, List.map_map]
  rfl

/-- **Names that are there can all be marked.** -/
theorem markRequired_eq_ok {names : List String} {fields : FieldSchema}
    (h : ∀ name ∈ names, name ∈ fields.keys) :
    ∃ result, markRequired names fields = .ok result
      ∧ result.entries = fields.entries.map (marked names) := by
  induction names generalizing fields with
  | nil =>
    have hself : marked [] = id := by
      funext entry
      simp [marked]
    exact ⟨fields, rfl, by rw [hself, List.map_id]⟩
  | cons name rest ih =>
    obtain ⟨hname, hrest⟩ := List.forall_mem_cons.1 h
    obtain ⟨⟨other, field⟩, hentry, rfl⟩ := List.mem_map.1 hname
    have hget := OrderedMap.mem_entries_iff.1 hentry
    obtain ⟨result, hresult, hmarked⟩ :=
      ih fun name hname => (keys_insert_required hget).symm ▸ hrest name hname
    refine ⟨result, ?_, ?_⟩
    · rw [markRequired, hget]
      exact hresult
    · rw [hmarked, entries_insert_required hget, List.map_map]
      refine List.map_congr_left fun entry _ => ?_
      simp [marked, Bool.or_assoc]

/-- **The fields of a schema**, if the names that it lists are properties. -/
theorem infer_eq_ok {schema : Json} (hobject : describesObject schema = true)
    (h : ∀ name ∈ requiredOf schema, name ∈ (propertiesOf schema).map Prod.fst) :
    ∃ fields, infer schema = .ok (some fields)
      ∧ fields.entries
        = (ofProperties (propertiesOf schema)).entries.map (marked (requiredOf schema)) := by
  have hkeys : ∀ name ∈ requiredOf schema, name ∈ (ofProperties (propertiesOf schema)).keys := by
    intro name hname
    rw [keys_ofProperties]
    exact List.mem_eraseDups.2 (h name hname)
  obtain ⟨fields, hfields, hentries⟩ := markRequired_eq_ok hkeys
  refine ⟨fields, ?_, hentries⟩
  rw [infer, if_pos hobject, hfields]
  rfl

theorem result_inferLogged (schema : Json) : (inferLogged schema).result = infer schema := by
  simp only [inferLogged, Logged.result_bind, Logged.result_of]
  cases infer schema with
  | error failure => rfl
  | ok fields => cases fields <;> simp

/-! ## A schema that is written and read

A number may come back as another one, or as null; nothing that a schema says depends on it. -/

/-- The type that stands in a schema: a name, or the first of several names other than null. -/
def typeName? (declared : Json) : Option String :=
  declared.string?.or (declared.items?.bind fun names =>
    (names.filterMap Json.string?).find? (· ≠ "null"))

theorem typeOf?_eq (property : Json) :
    typeOf? property = property.string?.or ((property.get? "type").bind typeName?) := by
  cases property with
  | string name => rfl
  | null | bool _ | number _ | array _ => rfl
  | object members =>
    simp only [typeOf?, Json.get?, Json.string?, Option.none_or]
    cases hlookup : members.lookup "type" with
    | none => rfl
    | some declared => cases declared <;> rfl

theorem filterMap_string?_reread (items : List Json) :
    (items.map Json.reread).filterMap Json.string? = items.filterMap Json.string? := by
  rw [List.filterMap_map]
  congr 1
  funext item
  exact Json.string?_reread item

theorem typeName?_reread (declared : Json) : typeName? declared.reread = typeName? declared := by
  simp only [typeName?, Json.string?_reread, Json.items?_reread]
  cases declared.items? with
  | none => rfl
  | some items => simp only [Option.map_some, Option.bind_some, filterMap_string?_reread]

theorem typeOf?_reread (property : Json) : typeOf? property.reread = typeOf? property := by
  simp only [typeOf?_eq, Json.string?_reread, Json.get?_reread]
  cases property.get? "type" with
  | none => rfl
  | some declared => simp only [Option.map_some, Option.bind_some, typeName?_reread]

theorem describesObject_reread (schema : Json) :
    describesObject schema.reread = describesObject schema := by
  simp only [describesObject, Json.get?_reread]
  cases schema.get? "type" with
  | none => rfl
  | some declared => simp only [Option.map_some, Option.bind_some, Json.string?_reread]

theorem propertiesOf_reread (schema : Json) :
    propertiesOf schema.reread
      = (propertiesOf schema).map fun property => (property.1, property.2.reread) := by
  simp only [propertiesOf, Json.get?_reread]
  cases schema.get? "properties" with
  | none => rfl
  | some properties =>
    simp only [Option.map_some, Option.bind_some, Json.members?_reread]
    cases properties.members? <;> rfl

theorem requiredOf_reread (schema : Json) : requiredOf schema.reread = requiredOf schema := by
  simp only [requiredOf, Json.get?_reread]
  cases schema.get? "required" with
  | none => rfl
  | some required =>
    simp only [Option.map_some, Option.bind_some, Json.items?_reread]
    cases required.items? with
    | none => rfl
    | some items => exact filterMap_string?_reread items

/-- The fields of a schema text are those of the schema, where the reader allows its depth. -/
theorem result_inferText_compact {schema : Json} (h : schema.Legible)
    (hdepth : schema.depth ≤ Json.maxDepth) (context : String) :
    (inferText schema.compact context).result = infer schema.reread := by
  rw [inferText, Json.parse_compact h hdepth]
  exact result_inferLogged _

/-- …and elsewhere the text is no schema, so that no text lacks a property where the schema does
not. -/
theorem inferText_compact_ne_undeclared {schema : Json} (h : schema.Legible)
    {fields : Option FieldSchema} (hinfer : infer schema.reread = .ok fields)
    (context name : String) :
    (inferText schema.compact context).result ≠ .error (.undeclared name) := by
  rcases Nat.lt_or_ge Json.maxDepth schema.depth with hdeep | hdepth
  · obtain ⟨fault, hfault⟩ := Json.parse_compact_tooDeep h hdeep
    rw [inferText, hfault]
    exact nofun
  · rw [result_inferText_compact h hdepth, hinfer]
    exact nofun

end RamlExpress.Field
