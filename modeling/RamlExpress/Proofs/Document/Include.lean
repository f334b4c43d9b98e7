import Mathlib.Data.List.Perm.Subperm
import RamlExpress.Proofs.Document.Schema
import RamlExpress.Proofs.Json.Unambiguous
import RamlExpress.Proofs.Yaml.Value

/-!
# Proofs/Document/Include — declarations in files of their own

A declaration that is included is written as JSON as it stands, while one in its place is turned
into a schema first.  The two are the same only for a declaration that is a schema already: it has a
type, no name comes twice in it, and it lists the required properties, unless it has none at all.

* `Declaration.compact_toSchema_eq_iff` — declarations that are schemas as they stand.
* `include_declaration` — what an included declaration is, and when it is the same in place.
-/

namespace RamlExpress

open Yaml (Value)

namespace Json

/-- In a legible value nothing is left to be merged. -/
theorem Legible.merged_eq {value : Json} (h : value.Legible) : value.merged = value := by
  induction h with
  | null | bool _ | number _ | string _ => rfl
  | array _ ih =>
    rw [merged, mergedItems_eq_map, List.map_congr_left ih, List.map_id']
  | @object members hnames _ ih =>
    have hsame : (members.map fun member => (member.1, member.2.merged)) = members := by
      refine (List.map_congr_left fun member hmember => ?_).trans (List.map_id _)
      rw [ih member hmember]
      rfl
    rw [merged_object, hsame, OrderedMap.entries_ofEntries hnames]

end Json

/-- The JSON of a well formed value has legible numbers. -/
theorem Yaml.Value.WellFormed.spelled {value : Value} (h : value.WellFormed) {json : Json}
    (hjson : value.toJson = .ok json) : json.Spelled := by
  induction h generalizing json with
  | null =>
    obtain rfl := Except.ok.inj hjson
    exact .null
  | bool value =>
    obtain rfl := Except.ok.inj hjson
    exact .bool value
  | number hheld =>
    obtain rfl := Except.ok.inj hjson
    exact .number (Json.legibleNumber_of_held hheld)
  | string value =>
    obtain rfl := Except.ok.inj hjson
    exact .string value
  | sequence _ ih =>
    simp only [Value.toJson, bind_eq_ok_iff] at hjson
    obtain ⟨values, hvalues, hjson⟩ := hjson
    obtain rfl := Except.ok.inj hjson
    refine .array fun value hvalue => ?_
    obtain ⟨item, hitem, hconvert⟩ :=
      Value.exists_mem_of_forall₂ (Value.forall₂_of_jsonItems hvalues) hvalue
    exact ih item hitem hconvert
  | mapping _ _ _ _ ih =>
    obtain ⟨members, hmembers, rfl⟩ := Value.toJson_mapping hjson
    refine .object fun member hmember => ?_
    obtain ⟨entry, hentry, -, hconvert⟩ :=
      Value.exists_mem_of_forall₂ (Value.forall₂_of_jsonMembers hmembers) hmember
    exact ih entry hentry hconvert
  | tagged name _ ih =>
    simp only [Value.toJson, bind_eq_ok_iff] at hjson
    obtain ⟨inner, hinner, hjson⟩ := hjson
    obtain rfl := Except.ok.inj hjson
    exact .object (List.forall_mem_singleton.2 (ih hinner))

namespace Declaration

/-! ## Schemas that stay as they are -/

theorem not_isOptional_of_stripped_eq {name : String} (h : stripped name = name) :
    isOptional name = false := by
  cases hoptional : isOptional name with
  | false => rfl
  | true =>
    rw [stripped, if_pos hoptional] at h
    have hlength := congrArg (fun text => text.toList.length) h
    simp only [String.toList_ofList, List.length_dropLast] at hlength
    have hempty : name.toList = [] := List.length_eq_zero_iff.1 (by omega)
    simp [isOptional, hempty] at hoptional

/-- Properties that keep their names have different ones. -/
theorem nodup_declared {properties : List (String × Json)}
    (hnames : (properties.map Prod.fst).Nodup)
    (h : (schemasOf (declared properties)).map Prod.fst = properties.map Prod.fst) :
    ((declared properties).map (·.name)).Nodup := by
  have hsubset : properties.map Prod.fst ⊆ (declared properties).map (·.name) := by
    intro name hname
    rw [← h, map_fst_schemasOf] at hname
    exact List.mem_eraseDups.1 hname
  have hlength : ((declared properties).map (·.name)).length
      ≤ (properties.map Prod.fst).length := by
    simp [declared]
  exact ((hnames.subperm hsubset).perm_of_length_le hlength).nodup_iff.1 hnames

/-- **Properties of which none is required stay as they are only if there are none**: each would say
so itself, and that is removed. -/
theorem eq_nil_of_reread_schemasOf_eq {properties : List (String × Json)}
    (hlegible : (Json.object properties).Legible) (hnone : requiredOf (declared properties) = [])
    (h : (Json.object (schemasOf (declared properties))).reread = (Json.object properties).reread) :
    properties = [] := by
  obtain ⟨hnames, hvalues⟩ := Json.legible_object_iff.1 hlegible
  obtain ⟨others, hothers, hmap⟩ := Json.exists_members_of_reread_eq h
  obtain rfl := Json.object.inj hothers
  have hfst : (schemasOf (declared properties)).map Prod.fst = properties.map Prod.fst := by
    simpa [Function.comp_def] using congrArg (List.map Prod.fst) hmap
  rw [schemasOf_eq_map (nodup_declared hnames hfst), declared, List.map_map, List.map_map,
    List.map_inj_left] at hmap
  refine List.eq_nil_iff_forall_not_mem.2 fun property hproperty => ?_
  have hkept := hmap property hproperty
  simp only [Function.comp_apply, propertyOf_eq, Prod.mk.injEq] at hkept
  have hflag : ownFlag? property.2 = none := by
    have hget := congrArg (Json.get? "required") hkept.2
    rw [Json.get?_reread, Json.get?_reread, get?_withoutFlag (hvalues property hproperty),
      if_pos rfl, Option.map_none, eq_comm, Option.map_eq_none_iff] at hget
    rw [ownFlag?, hget]
    rfl
  have hrequired : (propertyOf property.1 property.2).required = true := by
    rw [propertyOf_eq, hflag, not_isOptional_of_stripped_eq hkept.1]
    rfl
  have hmem : Json.string (propertyOf property.1 property.2).name
      ∈ requiredOf (declared properties) :=
    List.mem_map_of_mem (List.mem_filter.2 ⟨List.mem_map_of_mem hproperty, hrequired⟩)
  rw [hnone] at hmem
  contradiction

section Members

variable {members properties : List (String × Json)} (hlegible : (Json.object members).Legible)
  (hproperties : members.lookup "properties" = some (.object properties))

include hlegible hproperties

omit hlegible in
theorem isSome_type_toSchema : ((toSchema (.object members)).get? "type").isSome = true := by
  cases hlists : listsRequired members with
  | true =>
    rw [toSchema_of_listsRequired hlists, Json.get?, lookup_withType, if_pos rfl]
    rfl
  | false =>
    rw [toSchema_of_not_listsRequired hlists hproperties, Json.get?,
      lookup_withProperties_of_ne _ _ (by decide) (by decide), lookup_withType, if_pos rfl]
    rfl

/-- A declaration with a type and a list of required properties, or without properties, stays as it
is. -/
theorem toSchema_eq_self (htype : (members.lookup "type").isSome = true)
    (h : properties = [] ∨ listsRequired members = true) :
    toSchema (.object members) = .object members := by
  have hsame : withType members = members := if_pos htype
  cases hlists : listsRequired members with
  | true => rw [toSchema_of_listsRequired hlists, hsame]
  | false =>
    obtain rfl : properties = [] := h.resolve_right (by simp [hlists])
    obtain ⟨hnames, -⟩ := Json.legible_object_iff.1 hlegible
    rw [toSchema_of_not_listsRequired hlists hproperties, hsame]
    exact congrArg Json.object (putEntry_eq_self hnames hproperties)

/-- …and no other does. -/
theorem of_reread_toSchema_eq
    (h : (toSchema (.object members)).reread = (Json.object members).reread) :
    (members.lookup "type").isSome = true ∧ (properties = [] ∨ listsRequired members = true) := by
  have hget (name : String) : ((toSchema (.object members)).get? name).map Json.reread
      = (members.lookup name).map Json.reread := by
    rw [← Json.get?_reread, h, Json.get?_reread]
    rfl
  refine ⟨?_, ?_⟩
  · have htype := congrArg Option.isSome (hget "type")
    rw [Option.isSome_map, Option.isSome_map, isSome_type_toSchema hproperties] at htype
    exact htype.symm
  · cases hlists : listsRequired members with
    | true => exact .inr rfl
    | false =>
      rw [toSchema_of_not_listsRequired hlists hproperties] at hget
      have hnone : requiredOf (declared properties) = [] := by
        -- Otherwise the schema lists them, and then the declaration does as well.
        refine List.isEmpty_iff.1 (Decidable.byContradiction fun hsome => ?_)
        have hrequired := hget "required"
        rw [Json.get?, lookup_withProperties_required, if_neg hsome, Option.map_some, eq_comm,
          Option.map_eq_some_iff] at hrequired
        obtain ⟨required, hlookup, hsame⟩ := hrequired
        obtain ⟨items, rfl, -⟩ := Json.exists_items_of_reread_eq hsame
        simp [listsRequired, hlookup, Json.items?] at hlists
      have hsame := hget "properties"
      rw [Json.get?, lookup_withProperties_properties, hproperties] at hsame
      have hlist := legible_properties hlegible hproperties
      exact .inl (eq_nil_of_reread_schemasOf_eq hlist hnone (Option.some.inj hsame))

end Members

/-- **The text of a declaration is that of its schema** just if no name comes twice in it, it has a
type, and it lists the required properties or has no properties. -/
theorem compact_toSchema_eq_iff {json : Json} (hspelled : json.Spelled)
    {members properties : List (String × Json)} (hmerged : json.merged = .object members)
    (hlegible : (Json.object members).Legible)
    (hproperties : members.lookup "properties" = some (.object properties)) :
    json.compact = (toSchema json.merged).compact ↔
      json.merged = json ∧ (members.lookup "type").isSome = true
        ∧ (properties = [] ∨ listsRequired members = true) := by
  rw [hmerged]
  constructor
  · intro heq
    have hschema := legible_schema hlegible hproperties
    have hreread := Json.reread_eq_of_compact_eq hschema.spelled hspelled heq.symm
    have hjson : json = .object members :=
      (hspelled.legible hschema hreread).merged_eq.symm.trans hmerged
    rw [hjson] at hreread ⊢
    exact ⟨rfl, of_reread_toSchema_eq hlegible hproperties hreread⟩
  · rintro ⟨hjson, htype, hlists⟩
    rw [toSchema_eq_self hlegible hproperties htype hlists, ← hjson]

/-! ## The same in YAML -/

section Becomes

variable {entries : List (Value × Value)} {members : List (String × Json)}
  (hwf : (Value.mapping entries).WellFormed)
  (h : (Value.mapping entries).Becomes (.object members))

include hwf h

theorem isSome_lookup_eq {name : String} (hword : Json.IsWord name) :
    (members.lookup name).isSome = (Value.lookup name entries).isSome := by
  have hbind : (members.lookup name).bind (fun _ => some ())
      = (Value.lookup name entries).bind fun _ => some () :=
    h.bind_get? hwf hword fun _ => rfl
  cases hlookup : members.lookup name <;> cases hlookup' : Value.lookup name entries <;>
    simp_all

theorem listsRequired_iff :
    listsRequired members = true ↔
      ∃ items, Value.lookup "required" entries = some (.sequence items) := by
  constructor
  · intro hlists
    obtain ⟨items, hitems⟩ := Option.isSome_iff_exists.1 hlists
    obtain ⟨required, hlookup, hrequired⟩ := Option.bind_eq_some_iff.1 hitems
    obtain ⟨inner, innerJson, hinner, hconvert, rfl⟩ := (h.get? hwf (by decide)).1 hlookup
    have hbecomes := Value.becomes_merged hconvert
    generalize innerJson.merged = merged at hbecomes hrequired
    cases hbecomes with
    | sequence _ => exact ⟨_, hinner⟩
    | null | bool _ | number _ | string _ | mapping _ | tagged _ _ => contradiction
  · rintro ⟨items, hinner⟩
    obtain ⟨innerJson, hconvert⟩ := h.exists_toJson hinner
    have hget := (h.get? hwf (by decide)).2 ⟨_, innerJson, hinner, hconvert, rfl⟩
    have hbecomes := Value.becomes_merged hconvert
    generalize innerJson.merged = merged at hbecomes hget
    rw [Json.get?] at hget
    cases hbecomes
    rw [listsRequired, hget]
    rfl

theorem exists_properties {properties : List (Value × Value)}
    (hproperties : Value.lookup "properties" entries = some (.mapping properties)) :
    ∃ propertyMembers, members.lookup "properties" = some (.object propertyMembers)
      ∧ (propertyMembers = [] ↔ properties = []) := by
  obtain ⟨json, hconvert⟩ := h.exists_toJson hproperties
  obtain ⟨converted, hconverted, rfl⟩ := Value.toJson_mapping hconvert
  have hget := (h.get? hwf (by decide)).2 ⟨_, _, hproperties, hconvert, rfl⟩
  rw [Json.merged_object] at hget
  refine ⟨_, hget, ?_⟩
  cases Value.forall₂_of_jsonMembers hconverted with
  | nil => exact ⟨fun _ => rfl, fun _ => rfl⟩
  | @cons entry member _ rest _ _ =>
    refine ⟨fun hnil => ?_, nofun⟩
    have hkey : member.1 ∈ (OrderedMap.ofEntries ((member :: rest).map fun member =>
        (member.1, member.2.merged))).keys := by
      rw [OrderedMap.mem_keys_ofEntries]
      simp
    rw [OrderedMap.keys, hnil] at hkey
    contradiction

end Becomes

/-- **A declaration that is a schema as it stands.** -/
structure IsSchema (entries properties : List (Value × Value)) (json : Json) : Prop where
  merged_eq : json.merged = json
  isSome_type : (Value.lookup "type" entries).isSome = true
  lists : properties = [] ∨ ∃ items, Value.lookup "required" entries = some (.sequence items)

theorem compact_eq_iff_isSchema {entries properties : List (Value × Value)} {json : Json}
    (hwf : (Value.mapping entries).WellFormed) (hjson : (Value.mapping entries).toJson = .ok json)
    (hproperties : Value.lookup "properties" entries = some (.mapping properties)) :
    json.compact = (toSchema json.merged).compact ↔ IsSchema entries properties json := by
  have hbecomes := Value.becomes_merged hjson
  obtain ⟨members, hmerged⟩ : ∃ members, json.merged = .object members := by
    obtain ⟨members, -, rfl⟩ := Value.toJson_mapping hjson
    exact ⟨_, Json.merged_object members⟩
  rw [hmerged] at hbecomes
  obtain ⟨propertyMembers, hlookup, hnil⟩ := exists_properties hwf hbecomes hproperties
  rw [compact_toSchema_eq_iff (hwf.spelled hjson) hmerged (hbecomes.legible hwf) hlookup,
    isSome_lookup_eq hwf hbecomes (by decide), hnil, listsRequired_iff hwf hbecomes]
  exact ⟨fun ⟨hsame, htype, hlists⟩ => ⟨hsame, htype, hlists⟩,
    fun ⟨hsame, htype, hlists⟩ => ⟨hsame, htype, hlists⟩⟩

end Declaration

open Declaration

/-- What a file with a mapping in it is included as: its JSON, as it stands. -/
theorem result_schemaOf_include {origin : Origin} {file text : String}
    (hread : origin.files.readText (Path.join origin.base file) = .ok text)
    (htext : Origin.looksLikeObject text.toList = false) {entries : List (Value × Value)}
    (hparse : Value.parse text = .ok (.mapping entries)) {json : Json}
    (hjson : (Value.mapping entries).toJson = .ok json) (named : NamedSchemas) :
    (origin.schemaOf named (.tagged "include" (.string file))).result
      = .ok (some json.compact) := by
  have hread' : Origin.read origin.files (Path.join origin.base file) = .ok text := by
    rw [Origin.read, hread]
  have hparse' : Origin.parse text = .ok (.mapping entries) := by
    rw [Origin.parse, hparse]
  simp only [Origin.schemaOf, Value.untagged, Value.entries?, Origin.resolve, Origin.maxIncludes,
    Origin.resolveWithin, Origin.includeTarget, Value.string?, if_true, Logged.result_bind,
    Logged.result_of, Logged.result_debug, ok_bind, hread', htext, Bool.false_eq_true, if_false,
    hparse', Logged.result_map, Origin.jsonText, hjson]
  rfl

/-- **A declaration in a file of its own** is its JSON as it stands, whatever its properties say
about being required.  In place it would be the same just if it is a schema already, or, if it has
one under `schema`, if that is the same. -/
theorem include_declaration {origin : Origin} {file text : String}
    (hread : origin.files.readText (Path.join origin.base file) = .ok text)
    (htext : Origin.looksLikeObject text.toList = false)
    {entries properties : List (Value × Value)}
    (hparse : Value.parse text = .ok (.mapping entries))
    (hproperties : Value.lookup "properties" entries = some (.mapping properties)) {json : Json}
    (hjson : (Value.mapping entries).toJson = .ok json) (named : NamedSchemas) :
    (origin.schemaOf named (.tagged "include" (.string file))).result = .ok (some json.compact)
    ∧ (Value.lookup "schema" entries = none →
      ((origin.schemaOf named (.tagged "include" (.string file))).result
          = (origin.schemaOf named (.mapping entries)).result
        ↔ IsSchema entries properties json))
    ∧ ∀ schema, Value.lookup "schema" entries = some schema →
      ((origin.schemaOf named (.tagged "include" (.string file))).result
          = (origin.schemaOf named (.mapping entries)).result
        ↔ (origin.resolve named schema).result = .ok (some json.compact)) := by
  have hinclude := result_schemaOf_include hread htext hparse hjson named
  refine ⟨hinclude, fun hschema => ?_, fun schema hschema => ?_⟩
  · have hinline := result_schemaOf_mapping origin named hschema
      (by rw [hproperties]; rfl) hjson
    rw [hinclude, hinline, Except.ok.injEq, Option.some.injEq]
    exact compact_eq_iff_isSchema (Value.wellFormed_of_parse hparse) hjson hproperties
  · have hinline : (origin.schemaOf named (.mapping entries)).result
        = (origin.resolve named schema).result := by
      simp only [Origin.schemaOf, Value.untagged, Value.entries?, hschema]
    rw [hinclude, hinline, eq_comm]

/-- A directory with a book in it. -/
def shelf (text : String) : Origin := ⟨{ entries := [(["book.raml"], .file (.text text))] }, "."⟩

theorem readText_shelf (text : String) :
    (shelf text).files.readText (Path.join (shelf text).base "book.raml") = .ok text := by
  have hfault : FileSystem.pathFault? (Path.join "." "book.raml") = none := by decide +kernel
  have hstart : Path.isAbsolute (Path.join "." "book.raml") = false := by decide +kernel
  have hpieces : Path.pieces (Path.join "." "book.raml") = [".", "book.raml"] := by
    decide +kernel
  have hshort : ¬FileSystem.maxNameBytes < "book.raml".utf8ByteSize := by decide +kernel
  have hfind : (shelf text).files.find (Path.join (shelf text).base "book.raml")
      = .ok (["book.raml"], .file (.text text)) := by
    simp [shelf, FileSystem.find, FileSystem.start, hfault, hstart, hpieces, FileSystem.follow,
      FileSystem.entry?, Path.isIdle, hshort]
  rw [FileSystem.readText, hfind]
  rfl

/-- A book with a title. -/
def titleText : String := "properties: \x7btitle: string\x7d\n"

def titleEntries : List (Value × Value) :=
  [(.string "properties", .mapping [(.string "title", .string "string")])]

def titleMembers : List (String × Json) := [("properties", .object [("title", .string "string")])]

/-- …and one that says in JSON what is required of it. -/
def listedText : String := titleText ++ "type: object\nrequired: [title]\n"

def listedEntries : List (Value × Value) :=
  titleEntries ++ [(.string "type", .string "object"),
    (.string "required", .sequence [.string "title"])]

def listedMembers : List (String × Json) :=
  titleMembers ++ [("type", .string "object"), ("required", .array [.string "title"])]

def listedSchema : String :=
  "\x7b\"properties\":\x7b\"title\":\"string\"\x7d,\"type\":\"object\",\"required\":[\"title\"]\x7d"

/-- The second is the same in its file and in place. -/
theorem include_declaration_listed :
    ((shelf listedText).schemaOf .empty (.tagged "include" (.string "book.raml"))).result
        = .ok (some listedSchema)
    ∧ ((shelf listedText).schemaOf .empty (.mapping listedEntries)).result
        = .ok (some listedSchema) := by
  have hparse : Value.parse listedText = .ok (.mapping listedEntries) := by decide +kernel
  have hjson : (Value.mapping listedEntries).toJson = .ok (.object listedMembers) := rfl
  have hcompact : (Json.object listedMembers).compact = listedSchema := by decide +kernel
  obtain ⟨hinclude, hsame, -⟩ :=
    include_declaration (readText_shelf listedText) (by decide +kernel) hparse rfl hjson .empty
  have hinline := (hsame rfl).2 ⟨rfl, rfl, .inr ⟨_, rfl⟩⟩
  rw [hcompact] at hinclude
  exact ⟨hinclude, hinline.symm.trans hinclude⟩

/-- **The first is not**: in its file no title is required, and in place it is. -/
theorem include_declaration_title :
    Value.parse titleText = .ok (.mapping titleEntries)
    ∧ ((shelf titleText).schemaOf .empty (.tagged "include" (.string "book.raml"))).result
        = .ok (some "\x7b\"properties\":\x7b\"title\":\"string\"\x7d\x7d")
    ∧ ((shelf titleText).schemaOf .empty (.mapping titleEntries)).result
        = .ok (some listedSchema) := by
  have hparse : Value.parse titleText = .ok (.mapping titleEntries) := by decide +kernel
  have hjson : (Value.mapping titleEntries).toJson = .ok (.object titleMembers) := rfl
  have hcompact : (Json.object titleMembers).compact
      = "\x7b\"properties\":\x7b\"title\":\"string\"\x7d\x7d" := by
    decide +kernel
  have hschema : (toSchema (Json.object titleMembers).merged).compact = listedSchema := by
    decide +kernel
  refine ⟨hparse, ?_, ?_⟩
  · rw [result_schemaOf_include (readText_shelf titleText) (by decide +kernel) hparse hjson,
      hcompact]
  · rw [result_schemaOf_mapping _ _ rfl rfl hjson, hschema]

end RamlExpress
