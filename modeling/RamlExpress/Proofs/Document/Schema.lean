import RamlExpress.Document.Schema
import RamlExpress.Proofs.Document.Declaration
import RamlExpress.Proofs.Yaml.Json

/-!
# Proofs/Document/Schema — from a type declaration to fields

A declaration is turned into a JSON schema, written as text, read back and taken apart again.  What
comes out are the fields that the declaration declares: `Declaration.fieldOf` says so of each
property, with no JSON in between.

* `schemaOf_declaration` — the fields that come out.
-/

namespace RamlExpress

open Yaml (Value)

namespace Declaration

/-! ## What a declaration says -/

/-- The text of a key. -/
def keyText (key : Value) : String := (Value.nameOf key).toOption.getD ""

/-- The type that stands in a property: a name, or the first of several names other than null. -/
def typeName? : Value → Option String
  | .string name => some name
  | .sequence names => (names.filterMap Value.string?).find? (· ≠ "null")
  | _ => none

/-- The type of a property: the property itself, or what it says under `type`. -/
def typeOf? (property : Value) : Option String :=
  property.string?.or ((property.member? "type").bind typeName?)

/-- The truth value that a value is. -/
def truth? : Value → Option Bool
  | .bool value => some value
  | _ => none

/-- The truth value that a property has under `required`. -/
def flag? (property : Value) : Option Bool := (property.member? "required").bind truth?

/-- **The field that an entry of a declaration declares.**  Its own flag decides whether it is
required, and without one the key does. -/
def fieldOf (entry : Value × Value) : String × Field :=
  (stripped (keyText entry.1), {
    kind := .ofType (typeOf? entry.2)
    required := (flag? entry.2).getD !isOptional (keyText entry.1)
    indexed := stripped (keyText entry.1) = "id" })

/-- **A declaration of an object** with the given properties.  It is well formed, as all that is
read from a text is (`Value.wellFormed_of_parse`), and can be written in JSON.  Its type is `object`
if it has one, and it neither has a schema nor lists the required properties itself. -/
structure Declares (entries properties : List (Value × Value)) : Prop where
  wellFormed : (Value.mapping entries).WellFormed
  written : ∃ json, (Value.mapping entries).toJson = .ok json
  schema_eq : Value.lookup "schema" entries = none
  properties_eq : Value.lookup "properties" entries = some (.mapping properties)
  type_eq : ∀ declared, Value.lookup "type" entries = some declared → declared = .string "object"
  required_ne : ∀ items, Value.lookup "required" entries ≠ some (.sequence items)

theorem Declares.wellFormed_properties {entries properties : List (Value × Value)}
    (h : Declares entries properties) : ∀ entry ∈ properties, entry.2.WellFormed := by
  obtain _ | _ | _ | _ | _ | ⟨-, -, hvalues⟩ := h.wellFormed
  obtain _ | _ | _ | _ | _ | ⟨-, -, hproperties⟩ :=
    hvalues _ (Value.mem_of_lookup_eq_some h.properties_eq)
  exact hproperties

/-! ## The same in JSON -/

theorem filterMap_string?_merged {items : List Value} {values : List Json}
    (h : List.Forall₂ (fun item value => Value.toJson item = .ok value) items values) :
    (values.map Json.merged).filterMap Json.string? = items.filterMap Value.string? := by
  induction h with
  | nil => rfl
  | cons hitem _ ih =>
    rw [List.map_cons, List.filterMap_cons, List.filterMap_cons,
      (Value.becomes_merged hitem).string?, ih]

theorem typeName?_of_becomes {value : Value} {json : Json} (h : value.Becomes json) :
    Field.typeName? json = typeName? value := by
  cases h with
  | sequence hitems =>
    simp only [Field.typeName?, Json.string?, Json.items?, Option.none_or, Option.bind_some,
      filterMap_string?_merged hitems, typeName?]
  | null | bool _ | number _ | string _ | mapping _ | tagged _ _ => rfl

theorem typeOf?_of_becomes {value : Value} {json : Json} (h : value.Becomes json)
    (hwf : value.WellFormed) : Field.typeOf? json = typeOf? value := by
  rw [Field.typeOf?_eq, typeOf?, h.string?, h.bind_get? hwf (by decide) typeName?_of_becomes]

theorem ownFlag?_of_becomes {value : Value} {json : Json} (h : value.Becomes json)
    (hwf : value.WellFormed) : ownFlag? json = flag? value :=
  h.bind_get? hwf (by decide) fun hinner => by cases hinner <;> rfl

/-- Each entry of a declaration declares its field in JSON as well. -/
theorem toField_propertyOf {entry : Value × Value} (hwf : entry.2.WellFormed)
    {member : String × Json} (h : Value.IsMember entry member) :
    (propertyOf member.1 member.2.merged).toField = fieldOf entry := by
  obtain ⟨hname, hvalue⟩ := h
  have hkey : keyText entry.1 = member.1 := by
    rw [keyText, hname]
    rfl
  have hbecomes := Value.becomes_merged hvalue
  rw [propertyOf_eq, Property.toField, fieldOf, hkey, typeOf?_withoutFlag (hbecomes.legible hwf),
    typeOf?_of_becomes hbecomes hwf, ownFlag?_of_becomes hbecomes hwf]

theorem map_toField_propertyOf {properties : List (Value × Value)} {members : List (String × Json)}
    (hwf : ∀ entry ∈ properties, entry.2.WellFormed)
    (h : List.Forall₂ Value.IsMember properties members) :
    (members.map fun member => (propertyOf member.1 member.2.merged).toField)
      = properties.map fieldOf := by
  induction h with
  | nil => rfl
  | cons hmember _ ih =>
    obtain ⟨hvalue, hrest⟩ := List.forall_mem_cons.1 hwf
    rw [List.map_cons, List.map_cons, toField_propertyOf hvalue hmember, ih hrest]

/-- Properties whose names differ without question marks are all declared, in their order. -/
theorem declared_ofEntries {members : List (String × Json)}
    (h : (members.map fun member => stripped member.1).Nodup) :
    declared (OrderedMap.ofEntries (members.map fun member => (member.1, member.2.merged))).entries
      = members.map fun member => propertyOf member.1 member.2.merged := by
  have hnames : (members.map Prod.fst).Nodup := by
    refine List.Nodup.of_map stripped ?_
    rwa [List.map_map]
  rw [OrderedMap.entries_ofEntries (by rwa [List.map_map]), declared, List.map_map]
  rfl

/-- The JSON of a declaration describes an object. -/
theorem Declares.describesObject {entries properties : List (Value × Value)}
    (h : Declares entries properties) {json : Json} (hjson : (Value.mapping entries).Becomes json) :
    ∃ members propertyMembers, json = .object members
      ∧ List.Forall₂ Value.IsMember properties propertyMembers
      ∧ DescribesObject members (OrderedMap.ofEntries (propertyMembers.map fun member =>
          (member.1, member.2.merged))).entries := by
  obtain ⟨propertiesJson, hproperties⟩ := hjson.exists_toJson h.properties_eq
  obtain ⟨propertyMembers, hmembers, rfl⟩ := Value.toJson_mapping hproperties
  have hlegible := hjson.legible h.wellFormed
  have hget := @Value.Becomes.get? _ _ hjson h.wellFormed
  cases hjson
  refine ⟨_, propertyMembers, rfl, Value.forall₂_of_jsonMembers hmembers, hlegible, ?_, ?_, ?_⟩
  · intro declared hdeclared
    obtain ⟨inner, innerJson, hinner, hconvert, rfl⟩ := (hget (by decide)).1 hdeclared
    obtain rfl := h.type_eq inner hinner
    obtain rfl := Except.ok.inj hconvert
    rfl
  · intro items hitems
    obtain ⟨inner, innerJson, hinner, hconvert, harray⟩ := (hget (by decide)).1 hitems
    have hbecomes := Value.becomes_merged hconvert
    rw [← harray] at hbecomes
    cases hbecomes with
    | sequence _ => exact h.required_ne _ hinner
  · have hfound := (hget (by decide)).2 ⟨_, _, h.properties_eq, hproperties, rfl⟩
    rwa [Json.merged_object] at hfound

end Declaration

open Declaration

/-- A declaration without a schema of its own is turned into one. -/
theorem result_schemaOf_mapping (origin : Origin) (named : NamedSchemas)
    {entries : List (Value × Value)} (hschema : Value.lookup "schema" entries = none)
    (hproperties : (Value.lookup "properties" entries).isSome = true) {json : Json}
    (hjson : (Value.mapping entries).toJson = .ok json) :
    (origin.schemaOf named (.mapping entries)).result
      = .ok (some (toSchema json.merged).compact) := by
  simp only [Origin.schemaOf, Value.untagged, Value.entries?, hschema, if_pos hproperties,
    Logged.result_map, Logged.result_of, Origin.declarationText, hjson]
  rfl

theorem result_schemaOf (origin : Origin) (named : NamedSchemas)
    {entries properties : List (Value × Value)} (h : Declares entries properties) {json : Json}
    (hjson : (Value.mapping entries).toJson = .ok json) :
    (origin.schemaOf named (.mapping entries)).result
      = .ok (some (toSchema json.merged).compact) := by
  refine result_schemaOf_mapping origin named h.schema_eq ?_ hjson
  rw [h.properties_eq]
  rfl

/-- **The fields of a declaration are those that it declares.**  Its schema text gives one field for
each property, in their order, if no two names are the same without their question marks and the
text is not nested too deep.  In no case is a property missing from the schema that it requires. -/
theorem schemaOf_declaration (origin : Origin) (named : NamedSchemas)
    {entries properties : List (Value × Value)} (h : Declares entries properties) :
    ∃ text, (origin.schemaOf named (.mapping entries)).result = .ok (some text)
      ∧ (∀ context name, (Field.inferText text context).result ≠ .error (.undeclared name))
      ∧ ((properties.map fun entry => stripped (keyText entry.1)).Nodup →
        Json.nesting text ≤ Json.maxDepth →
        ∀ context, ∃ fields, (Field.inferText text context).result = .ok (some fields)
          ∧ fields.entries = properties.map fieldOf) := by
  obtain ⟨json, hjson⟩ := h.written
  obtain ⟨members, propertyMembers, hmerged, hrelated, hobject⟩ :=
    h.describesObject (Value.becomes_merged hjson)
  obtain ⟨fields, hinfer, hentries⟩ := infer_toSchema hobject
  have hlegible := legible_toSchema hobject
  refine ⟨(toSchema (.object members)).compact, ?_, ?_, ?_⟩
  · rw [result_schemaOf origin named h hjson, hmerged]
  · exact Field.inferText_compact_ne_undeclared hlegible hinfer
  · intro hnames hnesting context
    rw [Json.nesting_compact hlegible] at hnesting
    refine ⟨fields, by rw [Field.result_inferText_compact hlegible hnesting, hinfer], ?_⟩
    have hfields := map_toField_propertyOf h.wellFormed_properties hrelated
    have hstripped : (propertyMembers.map fun member => stripped member.1).Nodup := by
      have hfirst := congrArg (List.map Prod.fst) hfields
      simp only [List.map_map, Function.comp_def, propertyOf_eq, Property.toField, fieldOf]
        at hfirst
      rwa [hfirst]
    rw [declared_ofEntries hstripped, List.map_map, List.map_map] at hentries
    rw [hentries, ← hfields]
    · rfl
    · simpa only [Function.comp_def, propertyOf_eq] using hstripped

/-- The properties of a book: flags that agree with their key and flags that do not, a choice of
types, and a key that is a number. -/
def bookProperties : List (Value × Value) := [
  (.string "id", .string "integer"),
  (.string "title?", .mapping [
    (.string "required", .bool true),
    (.string "type", .sequence [.string "null", .string "string"]),
    (.string "minLength", .number (.integer 1))]),
  (.string "price", .mapping [
    (.string "type", .string "number"),
    (.string "required", .bool false)]),
  (.string "note?", .string "string"),
  (.number (.integer 2024), .null)]

/-- A book, with a flag of its own where a list of names may stand. -/
def bookEntries : List (Value × Value) :=
  [(.string "required", .bool false), (.string "properties", .mapping bookProperties)]

theorem declares_book : Declares bookEntries bookProperties where
  wellFormed := by
    have hone : (Value.number (.integer 1)).WellFormed := .number (by decide)
    have hyear : (Value.number (.integer 2024)).WellFormed := .number (by decide)
    have htitle : (Value.mapping [
        (.string "required", .bool true),
        (.string "type", .sequence [.string "null", .string "string"]),
        (.string "minLength", .number (.integer 1))]).WellFormed := by
      refine .mapping (by decide) ?_ ?_ <;>
        simp [Value.WellFormed.string, Value.WellFormed.bool, Value.WellFormed.sequence, hone]
    have hprice : (Value.mapping [(.string "type", .string "number"),
        (.string "required", .bool false)]).WellFormed := by
      refine .mapping (by decide) ?_ ?_ <;> simp [Value.WellFormed.string, Value.WellFormed.bool]
    have hproperties : (Value.mapping bookProperties).WellFormed := by
      refine .mapping (by decide) ?_ ?_ <;>
        simp [bookProperties, Value.WellFormed.string, Value.WellFormed.null, hyear, htitle, hprice]
    refine .mapping (by decide) ?_ ?_ <;>
      simp [bookEntries, Value.WellFormed.string, Value.WellFormed.bool, hproperties]
  written := ⟨_, rfl⟩
  schema_eq := rfl
  properties_eq := rfl
  type_eq := nofun
  required_ne := nofun

theorem schemaOf_declaration_book :
    ∃ text fields, (Origin.schemaOf ⟨{}, ""⟩ .empty (.mapping bookEntries)).result = .ok (some text)
      ∧ (Field.inferText text "book").result = .ok (some fields)
      ∧ fields.entries = [
        ("id", { kind := .number, required := true, indexed := true }),
        ("title", { kind := .string, required := true }),
        ("price", { kind := .number }), ("note", { kind := .string }),
        ("2024", { kind := .string, required := true })] := by
  obtain ⟨text, htext, -, hfields⟩ := schemaOf_declaration ⟨{}, ""⟩ .empty declares_book
  have hnesting : Json.nesting text ≤ Json.maxDepth := by
    have hschema := result_schemaOf ⟨{}, ""⟩ .empty declares_book rfl
    obtain rfl := Option.some.inj (Except.ok.inj (hschema.symm.trans htext))
    rw [Json.nesting, Json.compact, String.toList_ofList]
    decide +kernel
  obtain ⟨fields, hinfer, hentries⟩ := hfields (by decide +kernel) hnesting "book"
  exact ⟨text, fields, htext, hinfer, hentries.trans (by decide +kernel)⟩

end RamlExpress
