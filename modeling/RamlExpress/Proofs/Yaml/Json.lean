import Mathlib.Data.List.Forall2
import RamlExpress.Proofs.Yaml.WellFormed
import RamlExpress.Yaml.Json

/-!
# Proofs/Yaml/Json — what becomes of a value in JSON

A well formed value gives JSON that can be read back, once repeated names are merged.  A word that
no number and no truth value spells is the name of an entry just if it is a key: looking it up in
the JSON is looking it up in the mapping.

* `Value.Becomes.legible` — the JSON of a well formed value can be read back.
* `Value.Becomes.get?` — a word is looked up in JSON as in YAML.
-/

namespace RamlExpress

namespace Json

theorem mergedItems_eq_map (items : List Json) : mergedItems items = items.map merged := by
  induction items with
  | nil => rfl
  | cons item rest ih => rw [mergedItems, ih, List.map_cons]

theorem mergedMembers_eq_foldl (done members : List (String × Json)) :
    mergedMembers done members
      = (members.map fun member => (member.1, member.2.merged)).foldl
          (fun done entry => putEntry entry.1 entry.2 done) done := by
  induction members generalizing done with
  | nil => rfl
  | cons member rest ih => rw [mergedMembers, ih, List.map_cons, List.foldl_cons]

/-- **Merging puts the members into a map**, one after the other. -/
theorem merged_object (members : List (String × Json)) :
    (Json.object members).merged
      = .object (OrderedMap.ofEntries (members.map fun member =>
          (member.1, member.2.merged))).entries := by
  rw [merged, mergedMembers_eq_foldl, OrderedMap.ofEntries, OrderedMap.entries_insertAll]
  rfl

/-- A name that is spelled like no number, no truth value and no tag. -/
structure IsWord (name : String) : Prop where
  notNumber : Machine.numberOf? name.toList = none
  notBool : name ≠ "true" ∧ name ≠ "false"
  notTag : name.toList.head? ≠ some '!'

instance (name : String) : Decidable (IsWord name) :=
  decidable_of_iff (Machine.numberOf? name.toList = none ∧ (name ≠ "true" ∧ name ≠ "false")
      ∧ name.toList.head? ≠ some '!')
    ⟨fun h => ⟨h.1, h.2.1, h.2.2⟩, fun h => ⟨h.1, h.2, h.3⟩⟩

end Json

namespace Yaml.Value

open Json (IsWord)

/-! ## Conversion -/

theorem forall₂_of_jsonItems {items : List Value} {values : List Json}
    (h : jsonItems items = .ok values) :
    List.Forall₂ (fun item value => toJson item = .ok value) items values := by
  induction items generalizing values with
  | nil =>
    obtain rfl := Except.ok.inj h
    exact .nil
  | cons item rest ih =>
    simp only [jsonItems, bind_eq_ok_iff] at h
    obtain ⟨value, hvalue, others, hothers, hvalues⟩ := h
    obtain rfl := Except.ok.inj hvalues
    exact .cons hvalue (ih hothers)

/-- A member has the name of its key and the value of its value. -/
def IsMember (entry : Value × Value) (member : String × Json) : Prop :=
  nameOf entry.1 = .ok member.1 ∧ toJson entry.2 = .ok member.2

theorem forall₂_of_jsonMembers {entries : List (Value × Value)} {members : List (String × Json)}
    (h : jsonMembers entries = .ok members) : List.Forall₂ IsMember entries members := by
  induction entries generalizing members with
  | nil =>
    obtain rfl := Except.ok.inj h
    exact .nil
  | cons entry rest ih =>
    simp only [jsonMembers, bind_eq_ok_iff] at h
    obtain ⟨name, hname, value, hvalue, others, hothers, hmembers⟩ := h
    obtain rfl := Except.ok.inj hmembers
    exact .cons ⟨hname, hvalue⟩ (ih hothers)

theorem exists_mem_of_forall₂ {α β : Type} {R : α → β → Prop} {as : List α} {bs : List β}
    (h : List.Forall₂ R as bs) {b : β} (hb : b ∈ bs) : ∃ a ∈ as, R a b := by
  induction h with
  | nil => contradiction
  | cons hab _ ih =>
    rcases List.mem_cons.1 hb with rfl | hb
    · exact ⟨_, List.mem_cons_self, hab⟩
    · obtain ⟨a, ha, hR⟩ := ih hb
      exact ⟨a, List.mem_cons_of_mem _ ha, hR⟩

theorem toJson_mapping {entries : List (Value × Value)} {json : Json}
    (h : toJson (.mapping entries) = .ok json) :
    ∃ members, jsonMembers entries = .ok members ∧ json = .object members := by
  simp only [toJson, bind_eq_ok_iff] at h
  obtain ⟨members, hmembers, hjson⟩ := h
  exact ⟨members, hmembers, (Except.ok.inj hjson).symm⟩

/-- **What a value becomes in JSON**, once repeated names are merged. -/
inductive Becomes : Value → Json → Prop
  | null : Becomes .null .null
  | bool (value : Bool) : Becomes (.bool value) (.bool value)
  | number (value : Number) : Becomes (.number value) (.number value)
  | string (value : String) : Becomes (.string value) (.string value)
  | sequence {items : List Value} {values : List Json} :
      List.Forall₂ (fun item value => toJson item = .ok value) items values →
      Becomes (.sequence items) (.array (values.map Json.merged))
  | mapping {entries : List (Value × Value)} {members : List (String × Json)} :
      List.Forall₂ IsMember entries members →
      Becomes (.mapping entries)
        (.object (OrderedMap.ofEntries (members.map fun member =>
          (member.1, member.2.merged))).entries)
  | tagged (name : String) {value : Value} {json : Json} : toJson value = .ok json →
      Becomes (.tagged name value) (.object [("!" ++ name, json.merged)])

theorem becomes_merged {value : Value} {json : Json} (h : toJson value = .ok json) :
    Becomes value json.merged := by
  cases value with
  | null | bool _ | number _ | string _ =>
    obtain rfl := Except.ok.inj h
    constructor
  | sequence items =>
    simp only [toJson, bind_eq_ok_iff] at h
    obtain ⟨values, hvalues, hjson⟩ := h
    obtain rfl := Except.ok.inj hjson
    rw [Json.merged, Json.mergedItems_eq_map]
    exact .sequence (forall₂_of_jsonItems hvalues)
  | mapping entries =>
    obtain ⟨members, hmembers, rfl⟩ := toJson_mapping h
    rw [Json.merged_object]
    exact .mapping (forall₂_of_jsonMembers hmembers)
  | tagged name value =>
    simp only [toJson, bind_eq_ok_iff] at h
    obtain ⟨inner, hinner, hjson⟩ := h
    obtain rfl := Except.ok.inj hjson
    exact .tagged name hinner

theorem Becomes.string? {value : Value} {json : Json} (h : Becomes value json) :
    json.string? = value.string? := by
  cases h <;> rfl

/-- **The JSON of a well formed value can be read back.** -/
theorem Becomes.legible {value : Value} {json : Json} (h : Becomes value json)
    (hwf : value.WellFormed) : json.Legible := by
  induction hwf generalizing json with
  | null =>
    cases h
    exact .null
  | bool value =>
    cases h
    exact .bool value
  | number hheld =>
    cases h
    exact .number (Json.legibleNumber_of_held hheld)
  | string value =>
    cases h
    exact .string value
  | sequence _ ih =>
    obtain _ | _ | _ | _ | hvalues := h
    refine .array fun merged hmerged => ?_
    obtain ⟨value, hvalue, rfl⟩ := List.mem_map.1 hmerged
    obtain ⟨item, hitem, hconvert⟩ := exists_mem_of_forall₂ hvalues hvalue
    exact ih item hitem (becomes_merged hconvert)
  | mapping _ _ _ _ ih =>
    obtain _ | _ | _ | _ | _ | hmembers := h
    refine .object (OrderedMap.nodup_keys _) fun merged hmerged => ?_
    obtain ⟨member, hmember, rfl⟩ := List.mem_map.1 (OrderedMap.mem_of_mem_ofEntries hmerged)
    obtain ⟨entry, hentry, -, hconvert⟩ := exists_mem_of_forall₂ hmembers hmember
    exact ih entry hentry (becomes_merged hconvert)
  | tagged name _ ih =>
    obtain _ | _ | _ | _ | _ | _ | ⟨_, hinner⟩ := h
    exact .object (List.nodup_singleton _)
      (List.forall_mem_singleton.2 (ih (becomes_merged hinner)))

/-! ## Lookup -/

/-- Only the string itself gives a name that is a word. -/
theorem eq_string_of_nameOf {key : Value} (hkey : key.WellFormed) {name : String}
    (h : nameOf key = .ok name) (hword : IsWord name) : key = .string name := by
  obtain ⟨hnumber, ⟨htrue, hfalse⟩, -⟩ := hword
  cases hkey with
  | string value => rw [Except.ok.inj h]
  | bool value =>
    have hname := Except.ok.inj h
    cases value
    · exact absurd hname.symm hfalse
    · exact absurd hname.symm htrue
  | @number value hheld =>
    -- The name is the text of the number, and the text of a number spells one.
    have hsome : (Json.Machine.numberOf? name.toList).isSome = true := by
      match value, hheld, h with
      | .integer value, hheld, h =>
        rw [← Except.ok.inj h]
        exact Json.numberOf?_integer hheld.1 hheld.2
      | .real (.finite negative mantissa exponent), hheld, h =>
        rw [← Except.ok.inj h]
        exact Json.numberOf?_finite negative hheld
    simp [hnumber] at hsome
  | null | sequence _ | mapping _ _ _ | tagged _ _ => contradiction

theorem lookup_eq_some_of_mem {entries : List (Value × Value)} {name : String} {value : Value}
    (hdistinct : entries.Pairwise fun entry later => entry.1.sameKey later.1 = false)
    (h : (.string name, value) ∈ entries) : lookup name entries = some value := by
  induction entries with
  | nil => contradiction
  | cons entry rest ih =>
    obtain ⟨hfirst, hrest⟩ := List.pairwise_cons.1 hdistinct
    obtain ⟨key, other⟩ := entry
    rw [lookup, List.find?_cons]
    rcases List.mem_cons.1 h with heq | hmem
    · obtain ⟨rfl, rfl⟩ := Prod.mk.inj heq
      simp [string?]
    · have hne : (key.string? == some name) = false := by
        rw [beq_eq_false_iff_ne]
        intro heq
        obtain rfl : key = .string name := by cases key <;> simp_all [string?]
        have hsame := hfirst _ hmem
        simp [sameKey] at hsame
      simp only [hne]
      exact ih hrest hmem

theorem mem_of_lookup_eq_some {entries : List (Value × Value)} {name : String} {value : Value}
    (h : lookup name entries = some value) : (.string name, value) ∈ entries := by
  obtain ⟨⟨key, _⟩, hfind, rfl⟩ := Option.map_eq_some_iff.1 h
  have hkey : key = .string name := by
    have hname := List.find?_some hfind
    cases key <;> simp_all [string?]
  exact hkey ▸ List.mem_of_find?_eq_some hfind

/-- The value under a name in a mapping. -/
def member? (name : String) (value : Value) : Option Value := value.entries?.bind (lookup name)

/-- What stands under a word among the members stands under it among the entries. -/
theorem exists_lookup_of_get? {entries : List (Value × Value)}
    (hwf : (Value.mapping entries).WellFormed) {members : List (String × Json)}
    (hrelated : List.Forall₂ IsMember entries members) {name : String} (hword : IsWord name)
    {merged : Json}
    (h : (OrderedMap.ofEntries (members.map fun member => (member.1, member.2.merged))).get? name
      = some merged) :
    ∃ value json, lookup name entries = some value ∧ toJson value = .ok json
      ∧ merged = json.merged := by
  obtain _ | _ | _ | _ | _ | ⟨hdistinct, hkeys, _⟩ := hwf
  have hmem := OrderedMap.mem_of_mem_ofEntries (OrderedMap.mem_entries_iff.2 h)
  obtain ⟨member, hmember, heq⟩ := List.mem_map.1 hmem
  obtain ⟨rfl, rfl⟩ := Prod.mk.inj heq
  obtain ⟨entry, hentry, hname, hvalue⟩ := exists_mem_of_forall₂ hrelated hmember
  have hkey := eq_string_of_nameOf (hkeys entry hentry) hname hword
  refine ⟨entry.2, member.2, lookup_eq_some_of_mem hdistinct ?_, hvalue, rfl⟩
  rw [← hkey]
  exact hentry

theorem Becomes.get?_mapping {entries : List (Value × Value)}
    (hwf : (Value.mapping entries).WellFormed) {members : List (String × Json)}
    (hrelated : List.Forall₂ IsMember entries members) {name : String} (hword : IsWord name)
    {merged : Json} :
    (OrderedMap.ofEntries (members.map fun member => (member.1, member.2.merged))).get? name
        = some merged ↔
      ∃ value json, lookup name entries = some value ∧ toJson value = .ok json
        ∧ merged = json.merged := by
  refine ⟨exists_lookup_of_get? hwf hrelated hword, ?_⟩
  rintro ⟨value, json, hlookup, hjson, rfl⟩
  obtain ⟨member, hmember, hname, -⟩ :=
    exists_mem_of_forall₂ hrelated.flip (mem_of_lookup_eq_some hlookup)
  cases hmerged : (OrderedMap.ofEntries (members.map fun member =>
      (member.1, member.2.merged))).get? name with
  | none =>
    rw [OrderedMap.get?_ofEntries, List.lookup_eq_none_iff] at hmerged
    have hne := hmerged _ (List.mem_reverse.2 (List.mem_map_of_mem hmember))
    rw [← Except.ok.inj hname] at hne
    simp at hne
  | some merged =>
    -- It is there under this name, so it is the value that the name looks up.
    obtain ⟨value', json', hlookup', hjson', rfl⟩ :=
      exists_lookup_of_get? hwf hrelated hword hmerged
    obtain rfl := Option.some.inj (hlookup.symm.trans hlookup')
    rw [Except.ok.inj (hjson.symm.trans hjson')]

/-- **A word is looked up in JSON as in YAML.** -/
theorem Becomes.get? {value : Value} {json : Json} (h : Becomes value json)
    (hwf : value.WellFormed) {name : String} (hword : IsWord name) {merged : Json} :
    json.get? name = some merged ↔
      ∃ inner innerJson, value.member? name = some inner ∧ toJson inner = .ok innerJson
        ∧ merged = innerJson.merged := by
  cases h with
  | mapping hmembers => exact Becomes.get?_mapping hwf hmembers hword
  | tagged tag _ =>
    -- The one name there is starts like a tag.
    have hne : (name == "!" ++ tag) = false := by
      rw [beq_eq_false_iff_ne]
      rintro rfl
      exact hword.notTag (by simp)
    simp [Json.get?, List.lookup_cons, hne, member?, entries?]
  | null | bool _ | number _ | string _ | sequence _ => simp [Json.get?, member?, entries?]

/-- A value inside a value that becomes JSON becomes JSON. -/
theorem Becomes.exists_toJson {value inner : Value} {json : Json} (h : Becomes value json)
    {name : String} (hinner : value.member? name = some inner) :
    ∃ innerJson, toJson inner = .ok innerJson := by
  cases h with
  | mapping hmembers =>
    obtain ⟨member, -, -, hvalue⟩ :=
      exists_mem_of_forall₂ hmembers.flip (mem_of_lookup_eq_some hinner)
    exact ⟨member.2, hvalue⟩
  | null | bool _ | number _ | string _ | sequence _ | tagged _ _ => contradiction

/-- What is said under a word in JSON is what is said under it in YAML. -/
theorem Becomes.bind_get? {α : Type} {value : Value} {json : Json} (h : Becomes value json)
    (hwf : value.WellFormed) {name : String} (hword : IsWord name)
    {ask : Json → Option α} {ask' : Value → Option α}
    (hask : ∀ {inner innerJson}, Becomes inner innerJson → ask innerJson = ask' inner) :
    (json.get? name).bind ask = (value.member? name).bind ask' := by
  cases hmember : value.member? name with
  | some inner =>
    obtain ⟨innerJson, hconvert⟩ := h.exists_toJson hmember
    rw [(h.get? hwf hword).2 ⟨inner, innerJson, hmember, hconvert, rfl⟩]
    exact hask (becomes_merged hconvert)
  | none =>
    cases hget : json.get? name with
    | none => rfl
    | some merged =>
      obtain ⟨inner, _, hinner, -⟩ := (h.get? hwf hword).1 hget
      rw [hmember] at hinner
      contradiction

end Yaml.Value

end RamlExpress
