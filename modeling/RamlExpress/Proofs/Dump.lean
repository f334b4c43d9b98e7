import RamlExpress.Proofs.Document.Declaration
import RamlExpress.Scaffold.Dump
import RamlExpress.Scaffold.Program

/-!
# Proofs/Dump — the dump of the models is lossless

A dump is read back as the JSON it was written from, whatever the names in it are, and that JSON
tells every model and every field, in their order (`Registry.ofJson?`).  A definition in a program
is the same JSON as in the dump, only laid out wider.

* `Json.Faithful.parse_pretty` — what is laid out without numbers is read back as it was.
* `Registry.ofJson?_toJson` — the models are told by their JSON.
* `dump_lossless` — both, for the texts.
-/

namespace RamlExpress

/-! ## Reading models off JSON -/

/-- The kind that a name in a definition stands for. -/
def FieldKind.ofText? (text : String) : Option FieldKind := [string, number].find? (·.text = text)

/-- **The field that a definition defines**: its type gives the kind, and it is indexed or required
if it says so. -/
def Field.ofJson? (definition : Json) : Option Field := do
  let kind ← ((definition.get? "type").bind Json.string?).bind FieldKind.ofText?
  return {
    kind
    required := (definition.get? "required").bind Json.bool? == some true
    indexed := ((definition.get? "index").bind (·.get? "unique")).bind Json.bool? == some true }

/-- The map that the members of an object give, each read by `read?`. -/
def OrderedMap.ofJson? {α : Type} (read? : Json → Option α) (value : Json) :
    Option (OrderedMap α) := do
  let entries ← (← value.members?).mapM fun (name, member) => (read? member).map (name, ·)
  return .ofEntries entries

/-- The fields that an object of definitions defines. -/
def FieldSchema.ofJson? (value : Json) : Option FieldSchema :=
  OrderedMap.ofJson? Field.ofJson? value

/-- **The models that an object of definitions defines.** -/
def Registry.ofJson? (value : Json) : Option Registry :=
  OrderedMap.ofJson? FieldSchema.ofJson? value

theorem FieldKind.ofText?_text (kind : FieldKind) : ofText? kind.text = some kind := by
  cases kind <;> decide

theorem Field.ofJson?_toJson (field : Field) : ofJson? field.toJson = some field := by
  obtain ⟨kind, required, indexed⟩ := field
  have hkind := kind.ofText?_text
  cases required <;> cases indexed <;> simp [ofJson?, toJson, Json.get?, Json.string?, Json.bool?,
    List.lookup_cons, hkind]

/-- An object gives back the map it was made of, if each member does. -/
theorem OrderedMap.ofJson?_object {α : Type} {write : α → Json} {read? : Json → Option α}
    (h : ∀ value, read? (write value) = some value) (m : OrderedMap α) :
    OrderedMap.ofJson? read? (.object (m.entries.map fun entry => (entry.1, write entry.2)))
      = some m := by
  have hentries : (m.entries.map fun entry => (entry.1, write entry.2)).mapM
      (fun (member : String × Json) => (read? member.2).map (member.1, ·)) = some m.entries := by
    rw [List.mapM_map]
    simp only [Function.comp_def, h, Option.map_some]
    exact (List.mapM_pure (m := Option) (f := id) ..).trans (by rw [List.map_id]; rfl)
  have hsame : OrderedMap.ofEntries m.entries = m := OrderedMap.ext (entries_ofEntries m.nodup_keys)
  simp only [ofJson?, Json.members?, Option.bind_eq_bind, Option.bind_some]
  rw [hentries, Option.bind_some, hsame]
  rfl

theorem FieldSchema.ofJson?_toJson (fields : FieldSchema) :
    FieldSchema.ofJson? (FieldSchema.toJson fields) = some fields :=
  OrderedMap.ofJson?_object Field.ofJson?_toJson fields

/-- **The models are told by their JSON.** -/
theorem Registry.ofJson?_toJson (models : Registry) :
    Registry.ofJson? (Registry.toJson models) = some models :=
  OrderedMap.ofJson?_object FieldSchema.ofJson?_toJson models

/-! ## Texts -/

namespace Json

/-- A value that is read back from its texts as it was, and opens at most `level` collections at
once. -/
structure Faithful (level : Nat) (value : Json) : Prop where
  legible : value.Legible
  reread_eq : value.reread = value
  depth_le : value.depth ≤ level

theorem membersDepth_le {members : List (String × Json)} {level : Nat}
    (h : ∀ member ∈ members, member.2.depth ≤ level) : membersDepth members ≤ level := by
  induction members with
  | nil => exact Nat.zero_le level
  | cons member rest ih =>
    obtain ⟨hmember, hrest⟩ := List.forall_mem_cons.1 h
    exact Nat.max_le.2 ⟨hmember, ih hrest⟩

/-- **An object of such values is one itself**, one level deeper. -/
theorem Faithful.object {level : Nat} {members : List (String × Json)}
    (hnames : (members.map Prod.fst).Nodup) (h : ∀ member ∈ members, Faithful level member.2) :
    Faithful (level + 1) (.object members) where
  legible := .object hnames fun member hmember => (h member hmember).legible
  reread_eq := by
    have hsame : ∀ member ∈ members, (member.1, member.2.reread) = member := by
      intro member hmember
      rw [(h member hmember).reread_eq]
    rw [reread, rereadMembers_eq_map, List.map_congr_left hsame, List.map_id']
  depth_le := Nat.succ_le_succ (membersDepth_le fun member hmember => (h member hmember).depth_le)

/-- The object of a map of such values. -/
theorem Faithful.ofMap {α : Type} {level : Nat} {write : α → Json}
    (h : ∀ value, Faithful level (write value)) (m : OrderedMap α) :
    Faithful (level + 1) (.object (m.entries.map fun entry => (entry.1, write entry.2))) := by
  refine .object ?_ fun member hmember => ?_
  · rw [List.map_map]
    exact m.nodup_keys
  · obtain ⟨entry, -, rfl⟩ := List.mem_map.1 hmember
    exact h entry.2

theorem Faithful.parse_pretty {level : Nat} {value : Json} (h : Faithful level value)
    (hlevel : level ≤ maxDepth) (width : Nat) : parse (value.pretty width) = .ok value := by
  rw [Json.parse_pretty h.legible (Nat.le_trans h.depth_le hlevel), h.reread_eq]

theorem faithful_string (value : String) : Faithful 0 (.string value) :=
  ⟨.string value, rfl, Nat.le_refl 0⟩

theorem faithful_bool (value : Bool) : Faithful 0 (.bool value) := ⟨.bool value, rfl, Nat.le_refl 0⟩

theorem Faithful.mono {level higher : Nat} {value : Json} (h : Faithful level value)
    (hle : level ≤ higher) : Faithful higher value :=
  ⟨h.legible, h.reread_eq, Nat.le_trans h.depth_le hle⟩

end Json

theorem Field.faithful_toJson (field : Field) : Json.Faithful 2 field.toJson := by
  have hindex : Json.Faithful 1 (.object [("unique", .bool true)]) :=
    .object (List.nodup_singleton _) (List.forall_mem_singleton.2 (Json.faithful_bool true))
  have htype := (Json.faithful_string field.kind.text).mono (Nat.zero_le 1)
  have hrequired := (Json.faithful_bool true).mono (Nat.zero_le 1)
  obtain ⟨kind, required, indexed⟩ := field
  refine .object ?_ ?_ <;> cases required <;> cases indexed <;> simp [htype, hindex, hrequired]

theorem FieldSchema.faithful_toJson (fields : FieldSchema) :
    Json.Faithful 3 (FieldSchema.toJson fields) := .ofMap Field.faithful_toJson fields

theorem Registry.faithful_toJson (models : Registry) : Json.Faithful 4 (Registry.toJson models) :=
  .ofMap FieldSchema.faithful_toJson models

/-- A dump is read back. -/
theorem Registry.parse_jsonText (models : Registry) :
    Json.parse (Registry.jsonText models) = .ok (Registry.toJson models) :=
  (Registry.faithful_toJson models).parse_pretty (by decide) dumpIndent

/-- The declaration of a model, with its definition in it. -/
theorem Program.declaration_eq (name : String) (fields : FieldSchema) :
    declaration name fields
      = "  var " ++ name ++ " = new Schema(" ++ (FieldSchema.toJson fields).pretty definitionIndent
        ++ (", \x7b _id: false \x7d  );\n  var " ++ name ++ "Model = mongoose.model(\"" ++ name
          ++ "\", " ++ name ++ ");") := by
  simp only [declaration, Template.render, Template.lines, Template.schemaLines,
    String.intercalate_cons_cons, String.intercalate_singleton, String.append_assoc]
  rfl

/-- **The dump of the models is lossless.**  It is read back as JSON that tells the models, so
different models have different dumps.  What stands under a name in that JSON is also what the
definition in the declaration of that model is read as, and its form in the layout of the dump. -/
theorem dump_lossless :
    (∀ models : Registry, ∃ json, Json.parse (Registry.jsonText models) = .ok json
      ∧ Registry.ofJson? json = some models
      ∧ ∀ name, json.get? name = (models.get? name).map FieldSchema.toJson)
    ∧ Function.Injective Registry.jsonText
    ∧ ∀ (name : String) (fields : FieldSchema),
      let definition := (FieldSchema.toJson fields).pretty Program.definitionIndent
      Program.declaration name fields
        = "  var " ++ name ++ " = new Schema(" ++ definition
          ++ (", \x7b _id: false \x7d  );\n  var " ++ name ++ "Model = mongoose.model(\"" ++ name
            ++ "\", " ++ name ++ ");")
      ∧ Json.parse definition = .ok (FieldSchema.toJson fields)
      ∧ Json.parse ((FieldSchema.toJson fields).pretty dumpIndent)
        = .ok (FieldSchema.toJson fields) := by
  refine ⟨fun models => ⟨_, Registry.parse_jsonText models, Registry.ofJson?_toJson models, ?_⟩,
    ?_, ?_⟩
  · exact fun name => Json.lookup_map_snd FieldSchema.toJson models.entries name
  · intro models others htext
    have hjson : Registry.toJson models = Registry.toJson others :=
      Except.ok.inj ((Registry.parse_jsonText models).symm.trans
        (htext ▸ Registry.parse_jsonText others))
    exact Option.some.inj ((Registry.ofJson?_toJson models).symm.trans
      (hjson ▸ Registry.ofJson?_toJson others))
  · intro name fields
    have hread := (FieldSchema.faithful_toJson fields).parse_pretty (by decide)
    exact ⟨Program.declaration_eq name fields, hread _, hread _⟩

end RamlExpress
