import Mathlib.Data.List.Forall2
import RamlExpress.Proofs.Field.Inference

/-!
# Proofs/Field/Exact — the fields of a schema, exactly

The fields of an object schema are those of its properties, one by one and in their order.  The type
of a property has three spellings (`HasType`), and a property may be required in two ways; a listed
name that is no property is a failure, and the first such name is the one that it names.

* `Field.markRequired_eq_error` — marking stops at the first name that is missing.
* `infer_exact` — what a schema gives, in every case.
-/

namespace RamlExpress

namespace Field

/-! ## The type of a property -/

/-- **The type of a property.** -/
inductive HasType : Json → String → Prop
  /-- A property may be no more than its type. -/
  | own {name : String} : HasType (.string name) name
  | named {members : List (String × Json)} {name : String} :
    members.lookup "type" = some (.string name) → HasType (.object members) name
  /-- Of several types, the first other than null counts. -/
  | listed {members : List (String × Json)} {before after : List Json} {name : String} :
    members.lookup "type" = some (.array (before ++ .string name :: after)) → name ≠ "null" →
      (∀ other, .string other ∈ before → other = "null") → HasType (.object members) name

theorem string?_eq_some_iff {value : Json} {text : String} :
    value.string? = some text ↔ value = .string text := by
  cases value <;> simp [Json.string?]

/-- The first text of some items other than null. -/
theorem find?_string?_eq_some_iff {items : List Json} {name : String} :
    (items.filterMap Json.string?).find? (· ≠ "null") = some name
      ↔ ∃ before after, items = before ++ .string name :: after ∧ name ≠ "null"
        ∧ ∀ other, .string other ∈ before → other = "null" := by
  have hskipped (item : Json) : (!item.string?.any (decide <| · ≠ "null")) = true
      ↔ ∀ other, .string other = item → other = "null" := by
    cases item <;> simp [Json.string?]
  rw [List.find?_filterMap, Option.bind_eq_some_iff]
  simp only [string?_eq_some_iff, exists_eq_right, List.find?_eq_some_iff_append, hskipped]
  constructor
  · rintro ⟨hname, before, after, rfl, hbefore⟩
    exact ⟨before, after, rfl, by simpa [Json.string?] using hname,
      fun other hother => hbefore _ hother other rfl⟩
  · rintro ⟨before, after, rfl, hname, hbefore⟩
    exact ⟨by simpa [Json.string?] using hname, before, after, rfl,
      fun item hitem other hother => hbefore other (hother ▸ hitem)⟩

/-- **The type that is found is the type of the property.** -/
theorem typeOf?_eq_some_iff {property : Json} {name : String} :
    typeOf? property = some name ↔ HasType property name := by
  constructor
  · intro h
    rw [typeOf?_eq] at h
    cases property with
    | string text =>
      obtain rfl : text = name := Option.some.inj h
      exact .own
    | null | bool _ | number _ | array _ => contradiction
    | object members =>
      obtain ⟨declared, hdeclared, htype⟩ := Option.bind_eq_some_iff.1 h
      cases declared with
      | string text =>
        obtain rfl : text = name := Option.some.inj htype
        exact .named hdeclared
      | array items =>
        obtain ⟨before, after, rfl, hname, hbefore⟩ := find?_string?_eq_some_iff.1 htype
        exact .listed hdeclared hname hbefore
      | null | bool _ | number _ | object _ => contradiction
  · intro h
    cases h with
    | own => rfl
    | named hdeclared => simp [typeOf?, Json.get?, hdeclared]
    | listed hdeclared hname hbefore =>
      simp only [typeOf?, Json.get?, hdeclared]
      exact find?_string?_eq_some_iff.2 ⟨_, _, rfl, hname, hbefore⟩

theorem ofType_eq_number_iff {type? : Option String} :
    FieldKind.ofType type? = .number ↔ type? = some "integer" ∨ type? = some "number" := by
  rw [FieldKind.ofType]
  split <;> simp_all

/-! ## One property -/

theorem saysRequired_iff {property : Json} :
    saysRequired property = true ↔ property.get? "required" = some (.bool true) := by
  rw [saysRequired, beq_iff_eq, Option.bind_eq_some_iff]
  constructor
  · rintro ⟨value, hvalue, hbool⟩
    cases value with
    | bool flag => rw [hvalue, Option.some.inj hbool]
    | null | number _ | string _ | array _ | object _ => contradiction
  · exact fun h => ⟨_, h, rfl⟩

/-- **A field stands for a property**, in a schema that lists some names as required. -/
structure StandsFor (listed : List String) (field : String × Field) (property : String × Json) :
    Prop where
  name : field.1 = property.1
  required : field.2.required = true
    ↔ property.2.get? "required" = some (.bool true) ∨ property.1 ∈ listed
  indexed : field.2.indexed = true ↔ property.1 = "id"
  kind : field.2.kind = .number ↔ HasType property.2 "integer" ∨ HasType property.2 "number"

theorem standsFor_marked (listed : List String) (property : String × Json) :
    StandsFor listed (marked listed (property.1, ofProperty property.1 property.2)) property where
  name := rfl
  required := by simp [marked, ofProperty, saysRequired_iff]
  indexed := by simp [marked, ofProperty]
  kind := by
    rw [← typeOf?_eq_some_iff, ← typeOf?_eq_some_iff]
    exact ofType_eq_number_iff

/-! ## All properties -/

/-- **Marking stops at the first name that is missing.** -/
theorem markRequired_eq_error {before after : List String} {name : String} {fields : FieldSchema}
    (hbefore : ∀ earlier ∈ before, earlier ∈ fields.keys) (hname : name ∉ fields.keys) :
    markRequired (before ++ name :: after) fields = .error (.undeclared name) := by
  induction before generalizing fields with
  | nil =>
    rw [List.nil_append, markRequired, OrderedMap.get?_eq_none_iff.2 hname]
  | cons earlier rest ih =>
    obtain ⟨hearlier, hrest⟩ := List.forall_mem_cons.1 hbefore
    obtain ⟨⟨other, field⟩, hentry, rfl⟩ := List.mem_map.1 hearlier
    have hget := OrderedMap.mem_entries_iff.1 hentry
    have hkeys := keys_insert_required hget
    rw [List.cons_append, markRequired, hget]
    exact ih (fun name hname => hkeys.symm ▸ hrest name hname) (hkeys.symm ▸ hname)

theorem describesObject_iff {schema : Json} :
    describesObject schema = true ↔ schema.get? "type" = some (.string "object") := by
  rw [describesObject, beq_iff_eq, Option.bind_eq_some_iff]
  simp [string?_eq_some_iff]

theorem entries_ofProperties (properties : List (String × Json)) :
    (ofProperties properties).entries = (OrderedMap.ofEntries properties).entries.map
      fun property => (property.1, ofProperty property.1 property.2) := by
  rw [ofProperties_eq, OrderedMap.entries_ofEntries_map]

theorem keys_ofProperties_eq (properties : List (String × Json)) :
    (ofProperties properties).keys = (OrderedMap.ofEntries properties).keys := by
  rw [OrderedMap.keys, entries_ofProperties, List.map_map]
  rfl

variable {schema : Json} (hobject : describesObject schema = true)

include hobject

/-- The fields of an object schema whose listed names are properties stand for its properties. -/
theorem exists_fields
    (h : ∀ name ∈ requiredOf schema, name ∈ (OrderedMap.ofEntries (propertiesOf schema)).keys) :
    ∃ fields, infer schema = .ok (some fields)
      ∧ List.Forall₂ (StandsFor (requiredOf schema)) fields.entries
        (OrderedMap.ofEntries (propertiesOf schema)).entries := by
  rw [← keys_ofProperties_eq] at h
  obtain ⟨fields, hfields, hentries⟩ := markRequired_eq_ok h
  refine ⟨fields, by rw [infer, if_pos hobject, hfields]; rfl, ?_⟩
  rw [hentries, entries_ofProperties, List.map_map, List.forall₂_map_left_iff, List.forall₂_same]
  exact fun property _ => standsFor_marked (requiredOf schema) property

/-- …and one that lists another name fails by the first such name. -/
theorem infer_eq_error {name : String}
    (h : (requiredOf schema).find? (· ∉ (OrderedMap.ofEntries (propertiesOf schema)).keys)
      = some name) : infer schema = .error (.undeclared name) := by
  obtain ⟨hname, before, after, hsplit, hbefore⟩ := List.find?_eq_some_iff_append.1 h
  rw [infer, if_pos hobject, hsplit, markRequired_eq_error]
  · rfl
  · intro earlier hearlier
    simpa [keys_ofProperties_eq] using hbefore earlier hearlier
  · simpa [keys_ofProperties_eq] using hname

/-- A schema of an object has fields or fails. -/
theorem infer_cases :
    (∃ name, (requiredOf schema).find? (· ∉ (OrderedMap.ofEntries (propertiesOf schema)).keys)
        = some name ∧ infer schema = .error (.undeclared name))
      ∨ ∃ fields, infer schema = .ok (some fields) := by
  cases hfind : (requiredOf schema).find?
      (· ∉ (OrderedMap.ofEntries (propertiesOf schema)).keys) with
  | some name => exact .inl ⟨name, rfl, infer_eq_error hobject hfind⟩
  | none =>
    obtain ⟨fields, hfields, -⟩ := exists_fields hobject fun name hname => by
      simpa using List.find?_eq_none.1 hfind name hname
    exact .inr ⟨fields, hfields⟩

end Field

open RamlExpress.Field

/-- **The fields of a schema, exactly.**  Only a schema of an object has fields.  It fails just if
it lists a name that is no property, by the first such name; else it has one field for each
property, in order.  Where a name is repeated, which no schema that was read does, the map of the
properties has its last one. -/
theorem infer_exact (schema : Json) :
    let declared := ((schema.get? "properties").bind Json.members?).getD []
    let properties := OrderedMap.ofEntries declared
    let listed := (((schema.get? "required").bind Json.items?).getD []).filterMap Json.string?
    ((declared.map Prod.fst).Nodup → properties.entries = declared)
    ∧ (infer schema = .ok none ↔ schema.get? "type" ≠ some (.string "object"))
    ∧ (schema.get? "type" = some (.string "object") →
      (∀ failure, infer schema = .error failure
        ↔ ∃ name, listed.find? (· ∉ properties.keys) = some name ∧ failure = .undeclared name)
      ∧ ((∀ name ∈ listed, name ∈ properties.keys) →
        ∃ fields, infer schema = .ok (some fields)
          ∧ List.Forall₂ (StandsFor listed) fields.entries properties.entries)) := by
  intro declared properties listed
  refine ⟨OrderedMap.entries_ofEntries, ?_, fun htype => ⟨fun failure => ?_, ?_⟩⟩
  · constructor
    · intro hnone htype
      obtain ⟨name, -, herror⟩ | ⟨fields, hfields⟩ := infer_cases (describesObject_iff.2 htype)
      · simp [hnone] at herror
      · simp [hnone] at hfields
    · intro htype
      rw [infer, if_neg (mt describesObject_iff.1 htype)]
  · constructor
    · intro hfailure
      obtain ⟨name, hfind, herror⟩ | ⟨fields, hfields⟩ := infer_cases (describesObject_iff.2 htype)
      · exact ⟨name, hfind, Except.error.inj (hfailure.symm.trans herror)⟩
      · simp [hfailure] at hfields
    · rintro ⟨name, hfind, rfl⟩
      exact infer_eq_error (describesObject_iff.2 htype) hfind
  · exact exists_fields (describesObject_iff.2 htype)

/-- The properties of a parcel: all three spellings of a type, and one without any. -/
def parcelProperties : List (String × Json) :=
  [("id", .string "integer"),
    ("weight", .object [("type", .array [.string "null", .bool true, .string "number"]),
      ("required", .bool true)]),
    ("note", .array [])]

/-- …in a schema that lists one of them twice. -/
def parcelSchema : Json :=
  .object [("type", .string "object"), ("properties", .object parcelProperties),
    ("required", .array [.string "note", .null, .string "note"])]

theorem infer_exact_parcelSchema :
    parcelSchema.get? "type" = some (.string "object")
    ∧ ∃ fields, infer parcelSchema = .ok (some fields)
      ∧ List.Forall₂ (StandsFor ["note", "note"]) fields.entries parcelProperties := by
  obtain ⟨hentries, -, hobject⟩ := infer_exact parcelSchema
  obtain ⟨-, hfields⟩ := hobject rfl
  obtain ⟨fields, hinfer, hstand⟩ := hfields (by decide +kernel)
  rw [hentries (by decide +kernel)] at hstand
  exact ⟨rfl, fields, hinfer, hstand⟩

end RamlExpress
