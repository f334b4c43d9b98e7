import Mathlib.Data.List.Nodup
import RamlExpress.Document.Declaration
import RamlExpress.Proofs.Field.Inference

/-!
# Proofs/Document/Declaration — the schema of a declaration in JSON

The schema of a declaration lists the required properties, and no property says so itself any more.
Its fields are those of the properties as they were declared (`Property.toField`), also once it has
been written and read.

* `Declaration.legible_toSchema` — the schema can be read back.
* `Declaration.infer_toSchema` — the fields of the schema.
-/

namespace RamlExpress

/-! ## Lists of members -/

namespace Json

theorem legible_object_iff {members : List (String × Json)} :
    (Json.object members).Legible ↔
      (members.map Prod.fst).Nodup ∧ ∀ member ∈ members, member.2.Legible :=
  ⟨fun | .object hnames hvalues => ⟨hnames, hvalues⟩, fun h => .object h.1 h.2⟩

theorem legible_putEntry {members : List (String × Json)} (h : (Json.object members).Legible)
    (name : String) {value : Json} (hvalue : value.Legible) :
    (Json.object (putEntry name value members)).Legible := by
  obtain ⟨hnames, hvalues⟩ := legible_object_iff.1 h
  refine .object (OrderedMap.insert ⟨members, hnames⟩ name value).nodup_keys
    fun member hmember => ?_
  rcases mem_putEntry hmember with rfl | hold
  · exact hvalue
  · exact hvalues member hold

theorem legible_ofEntries {members : List (String × Json)}
    (h : ∀ member ∈ members, member.2.Legible) :
    (Json.object (OrderedMap.ofEntries members).entries).Legible :=
  .object (OrderedMap.nodup_keys _) fun member hmember =>
    h member (OrderedMap.mem_of_mem_ofEntries hmember)

end Json

namespace Declaration

/-! ## Names -/

/-- A name ends in a question mark. -/
def isOptional (name : String) : Bool := name.toList.getLast? == some '?'

/-- A name without one question mark at its end. -/
def stripped (name : String) : String :=
  if isOptional name then String.ofList name.toList.dropLast else name

theorem nameIn_eq (name : String) : nameIn name = (stripped name, isOptional name) := by
  unfold nameIn
  split
  · rename_i rest hreverse
    have hname : name.toList = rest.reverse ++ ['?'] := by
      rw [← List.reverse_reverse name.toList, hreverse, List.reverse_cons]
    have hoptional : isOptional name = true := by simp [isOptional, hname]
    rw [stripped, if_pos hoptional, hoptional, hname, List.dropLast_concat]
  · rename_i hreverse
    have hrequired : isOptional name = false := by
      rw [isOptional, beq_eq_false_iff_ne]
      intro hlast
      obtain ⟨front, hname⟩ := List.getLast?_eq_some_iff.1 hlast
      exact hreverse front.reverse (by rw [hname, List.reverse_append]; rfl)
    rw [stripped, hrequired]
    rfl

theorem propertyOf_eq (key : String) (value : Json) :
    propertyOf key value = {
      name := stripped key, required := (ownFlag? value).getD !isOptional key
      schema := withoutFlag value } := by
  simp only [propertyOf, nameIn_eq]

/-! ## Schemas -/

theorem schemasOf_eq (properties : List Property) :
    schemasOf properties
      = (OrderedMap.ofEntries (properties.map fun property =>
          (property.name, property.schema))).entries := by
  rw [schemasOf, OrderedMap.ofEntries, OrderedMap.entries_insertAll, List.foldl_map]
  rfl

theorem map_fst_schemasOf (properties : List Property) :
    (schemasOf properties).map Prod.fst = (properties.map (·.name)).eraseDups := by
  rw [schemasOf_eq]
  change (OrderedMap.empty.insertAll _).keys = _
  rw [OrderedMap.keys_insertAll, List.map_map]
  rfl

theorem schemasOf_eq_map {properties : List Property} (h : (properties.map (·.name)).Nodup) :
    schemasOf properties = properties.map fun property => (property.name, property.schema) := by
  rw [schemasOf_eq, OrderedMap.entries_ofEntries]
  rwa [List.map_map]

/-- Among properties with different names, the listed ones are those that are required. -/
theorem mem_required_iff {properties : List Property} (hnames : (properties.map (·.name)).Nodup)
    {property : Property} (h : property ∈ properties) :
    property.name ∈ (properties.filter (·.required)).map (·.name) ↔ property.required = true := by
  refine ⟨fun hmem => ?_, fun hflag => ?_⟩
  · obtain ⟨other, hother, hname⟩ := List.mem_map.1 hmem
    obtain ⟨hother, hflag⟩ := List.mem_filter.1 hother
    rwa [List.inj_on_of_nodup_map hnames hother h hname] at hflag
  · exact List.mem_map_of_mem (List.mem_filter.2 ⟨h, hflag⟩)

theorem legible_withoutFlag {value : Json} (h : value.Legible) : (withoutFlag value).Legible := by
  cases h with
  | object hnames hvalues =>
    refine .object (nodup_keys_swapRemove hnames "required") fun member hmember => ?_
    have hkept := (swapRemove_perm hnames "required").mem_iff.1 hmember
    exact hvalues member (List.mem_filter.1 hkept).1
  | null => exact .null
  | bool value => exact .bool value
  | number hnumber => exact .number hnumber
  | string value => exact .string value
  | array hitems => exact .array hitems

/-- Without its flag a property says nothing about being required, and all else as before. -/
theorem get?_withoutFlag {value : Json} (h : value.Legible) (name : String) :
    (withoutFlag value).get? name = if name = "required" then none else value.get? name := by
  cases h with
  | object hnames _ => exact lookup_swapRemove hnames "required" name
  | null | bool _ | number _ | string _ | array _ => simp [withoutFlag, Json.get?]

theorem typeOf?_withoutFlag {value : Json} (h : value.Legible) :
    Field.typeOf? (withoutFlag value) = Field.typeOf? value := by
  have hstring : (withoutFlag value).string? = value.string? := by cases value <;> rfl
  rw [Field.typeOf?_eq, Field.typeOf?_eq, hstring, get?_withoutFlag h, if_neg (by decide)]

/-- The field that a property stands for. -/
def Property.toField (property : Property) : String × Field :=
  (property.name, {
    kind := .ofType (Field.typeOf? property.schema), required := property.required
    indexed := property.name = "id" })

/-- What a declaration of an object looks like in JSON. -/
structure DescribesObject (members properties : List (String × Json)) : Prop where
  legible : (Json.object members).Legible
  type_eq : ∀ declared, members.lookup "type" = some declared → declared = .string "object"
  required_ne : ∀ items, members.lookup "required" ≠ some (.array items)
  properties_eq : members.lookup "properties" = some (.object properties)

/-- The properties that the members of an object declare. -/
def declared (properties : List (String × Json)) : List Property :=
  properties.map fun property => propertyOf property.1 property.2

theorem lookup_withType (members : List (String × Json)) (name : String) :
    (withType members).lookup name =
      if name = "type" then some ((members.lookup "type").getD (.string "object"))
      else members.lookup name := by
  unfold withType
  cases htype : members.lookup "type" with
  | some declared =>
    by_cases hname : name = "type"
    · simp [hname, htype]
    · simp [hname]
  | none =>
    rw [Option.isSome_none, if_neg Bool.false_ne_true, List.lookup_append]
    by_cases hname : name = "type"
    · simp [hname, htype]
    · simp [hname, List.lookup_cons, beq_eq_false_iff_ne.2 hname]

theorem legible_withType {members : List (String × Json)} (h : (Json.object members).Legible) :
    (Json.object (withType members)).Legible := by
  unfold withType
  split
  · exact h
  · rename_i hnone
    have hnew : "type" ∉ members.map Prod.fst := by
      intro hmem
      obtain ⟨member, hmember, hname⟩ := List.mem_map.1 hmem
      have hlookup :=
        List.lookup_eq_none_iff.1 (Option.not_isSome_iff_eq_none.1 hnone) member hmember
      simp [hname] at hlookup
    rw [← putEntry_of_notMem _ hnew]
    exact Json.legible_putEntry h "type" (.string _)

theorem lookup_withProperties_of_ne (properties : List Property) (members : List (String × Json))
    {name : String} (hproperties : name ≠ "properties") (hrequired : name ≠ "required") :
    (withProperties properties members).lookup name = members.lookup name := by
  simp only [withProperties]
  split
  · rw [lookup_putEntry, if_neg hproperties]
  · rw [lookup_putEntry, if_neg hrequired, lookup_putEntry, if_neg hproperties]

theorem lookup_withProperties_properties (properties : List Property)
    (members : List (String × Json)) :
    (withProperties properties members).lookup "properties"
      = some (.object (schemasOf properties)) := by
  simp only [withProperties]
  split
  · rw [lookup_putEntry, if_pos rfl]
  · rw [lookup_putEntry, if_neg (by decide), lookup_putEntry, if_pos rfl]

theorem lookup_withProperties_required (properties : List Property)
    (members : List (String × Json)) :
    (withProperties properties members).lookup "required"
      = if (requiredOf properties).isEmpty then members.lookup "required"
        else some (.array (requiredOf properties)) := by
  simp only [withProperties]
  split
  · rw [lookup_putEntry, if_neg (by decide)]
  · rw [lookup_putEntry, if_pos rfl]

theorem listsRequired_withType (members : List (String × Json)) :
    listsRequired (withType members) = listsRequired members := by
  rw [listsRequired, lookup_withType, if_neg (by decide), listsRequired]

/-- A declaration that lists its required properties is its own schema, but for the type. -/
theorem toSchema_of_listsRequired {members : List (String × Json)}
    (h : listsRequired members = true) :
    toSchema (.object members) = .object (withType members) := by
  rw [← listsRequired_withType] at h
  simp only [toSchema, h, if_true]

/-- …and any other has its properties settled. -/
theorem toSchema_of_not_listsRequired {members properties : List (String × Json)}
    (h : listsRequired members = false)
    (hproperties : members.lookup "properties" = some (.object properties)) :
    toSchema (.object members)
      = .object (withProperties (declared properties) (withType members)) := by
  have hlookup : (withType members).lookup "properties" = some (.object properties) := by
    rw [lookup_withType, if_neg (by decide), hproperties]
  rw [← listsRequired_withType] at h
  simp only [toSchema, h, hlookup]
  rfl

theorem legible_declared {properties : List (String × Json)}
    (h : (Json.object properties).Legible) :
    ∀ property ∈ declared properties, property.schema.Legible := by
  intro property hproperty
  obtain ⟨declaration, hdeclaration, rfl⟩ := List.mem_map.1 hproperty
  rw [propertyOf_eq]
  exact legible_withoutFlag ((Json.legible_object_iff.1 h).2 declaration hdeclaration)

theorem legible_withProperties {properties : List Property} {members : List (String × Json)}
    (h : (Json.object members).Legible)
    (hproperties : ∀ property ∈ properties, property.schema.Legible) :
    (Json.object (withProperties properties members)).Legible := by
  have hschemas : (Json.object (schemasOf properties)).Legible := by
    rw [schemasOf_eq]
    refine Json.legible_ofEntries fun member hmember => ?_
    obtain ⟨property, hproperty, rfl⟩ := List.mem_map.1 hmember
    exact hproperties property hproperty
  have hrequired : (Json.array (requiredOf properties)).Legible := by
    refine .array fun item hitem => ?_
    obtain ⟨property, -, rfl⟩ := List.mem_map.1 hitem
    exact .string _
  have hmembers := Json.legible_putEntry h "properties" hschemas
  simp only [withProperties]
  split
  · exact hmembers
  · exact Json.legible_putEntry hmembers "required" hrequired

/-- The properties of a legible declaration are legible… -/
theorem legible_properties {members properties : List (String × Json)}
    (h : (Json.object members).Legible)
    (hproperties : members.lookup "properties" = some (.object properties)) :
    (Json.object properties).Legible := by
  obtain ⟨hnames, hvalues⟩ := Json.legible_object_iff.1 h
  exact hvalues _ ((mem_iff_lookup_eq_some hnames).2 hproperties)

/-- …and so is its schema. -/
theorem legible_schema {members properties : List (String × Json)}
    (h : (Json.object members).Legible)
    (hproperties : members.lookup "properties" = some (.object properties)) :
    (toSchema (.object members)).Legible := by
  cases hlists : listsRequired members with
  | true =>
    rw [toSchema_of_listsRequired hlists]
    exact legible_withType h
  | false =>
    rw [toSchema_of_not_listsRequired hlists hproperties]
    exact legible_withProperties (legible_withType h)
      (legible_declared (legible_properties h hproperties))

section Schema

variable {members properties : List (String × Json)} (h : DescribesObject members properties)

include h

theorem DescribesObject.listsRequired_eq : listsRequired members = false := by
  rw [listsRequired]
  cases hlookup : members.lookup "required" with
  | none => rfl
  | some required =>
    cases required with
    | array items => exact absurd hlookup (h.required_ne items)
    | null | bool _ | number _ | string _ | object _ => rfl

theorem toSchema_eq :
    toSchema (.object members)
      = .object (withProperties (declared properties) (withType members)) :=
  toSchema_of_not_listsRequired h.listsRequired_eq h.properties_eq

theorem legible_toSchema : (toSchema (.object members)).Legible :=
  legible_schema h.legible h.properties_eq

theorem describesObject_toSchema : Field.describesObject (toSchema (.object members)) = true := by
  have htype : (members.lookup "type").getD (.string "object") = .string "object" := by
    cases htype : members.lookup "type" with
    | none => rfl
    | some declared => exact h.type_eq declared htype
  rw [toSchema_eq h, Field.describesObject, Json.get?, lookup_withProperties_of_ne _ _ (by decide)
    (by decide), lookup_withType, if_pos rfl, htype]
  rfl

theorem propertiesOf_toSchema :
    Field.propertiesOf (toSchema (.object members)) = schemasOf (declared properties) := by
  rw [toSchema_eq h, Field.propertiesOf, Json.get?, lookup_withProperties_properties]
  rfl

theorem requiredOf_toSchema :
    Field.requiredOf (toSchema (.object members))
      = ((declared properties).filter (·.required)).map (·.name) := by
  rw [toSchema_eq h, Field.requiredOf, Json.get?, lookup_withProperties_required]
  split
  · -- None is required, and what the declaration says in place of a list is no list.
    rename_i hnone
    have hfilter : (declared properties).filter (·.required) = [] :=
      List.map_eq_nil_iff.1 (List.isEmpty_iff.1 hnone)
    have hitems : ((withType members).lookup "required").bind Json.items? = none := by
      have hlists := (listsRequired_withType members).trans h.listsRequired_eq
      rwa [listsRequired, Option.isSome_eq_false_iff, Option.isNone_iff_eq_none] at hlists
    rw [hitems, hfilter]
    rfl
  · rw [Option.bind_some]
    simp only [Json.items?, Option.getD_some, requiredOf, List.filterMap_map]
    rw [← List.filterMap_eq_map]
    rfl

/-- No property says any more that it is required. -/
theorem saysRequired_declared {property : Property} (hproperty : property ∈ declared properties) :
    Field.saysRequired property.schema.reread = false := by
  obtain ⟨declaration, hdeclaration, rfl⟩ := List.mem_map.1 hproperty
  have hproperties := legible_properties h.legible h.properties_eq
  have hlegible := (Json.legible_object_iff.1 hproperties).2 declaration hdeclaration
  rw [propertyOf_eq, Field.saysRequired, Json.get?_reread, get?_withoutFlag hlegible, if_pos rfl]
  rfl

/-- **A declaration gives one field for each of its properties**, if their names differ, and fails
in no case. -/
theorem infer_toSchema :
    ∃ fields, Field.infer (toSchema (.object members)).reread = .ok (some fields)
      ∧ (((declared properties).map (·.name)).Nodup →
        fields.entries = (declared properties).map Property.toField) := by
  have hobject : Field.describesObject (toSchema (.object members)).reread = true := by
    rw [Field.describesObject_reread, describesObject_toSchema h]
  have hrequired : Field.requiredOf (toSchema (.object members)).reread
      = ((declared properties).filter (·.required)).map (·.name) := by
    rw [Field.requiredOf_reread, requiredOf_toSchema h]
  have hproperties : Field.propertiesOf (toSchema (.object members)).reread
      = (schemasOf (declared properties)).map fun property => (property.1, property.2.reread) := by
    rw [Field.propertiesOf_reread, propertiesOf_toSchema h]
  obtain ⟨fields, hfields, hentries⟩ := Field.infer_eq_ok hobject (by
    intro name hname
    rw [hrequired] at hname
    obtain ⟨property, hproperty, rfl⟩ := List.mem_map.1 hname
    rw [hproperties, List.map_map]
    change _ ∈ (schemasOf (declared properties)).map Prod.fst
    rw [map_fst_schemasOf]
    exact List.mem_eraseDups.2 (List.mem_map_of_mem (List.mem_filter.1 hproperty).1))
  refine ⟨fields, hfields, fun hnames => ?_⟩
  rw [hentries, hproperties, hrequired, schemasOf_eq_map hnames, List.map_map,
    Field.ofProperties_eq, List.map_map,
    OrderedMap.entries_ofEntries (by simpa [Function.comp_def] using hnames), List.map_map]
  refine List.map_congr_left fun property hproperty => ?_
  simp [Field.marked, Field.ofProperty, Property.toField, Field.typeOf?_reread,
    saysRequired_declared h hproperty, mem_required_iff hnames hproperty]

end Schema

end Declaration

end RamlExpress
