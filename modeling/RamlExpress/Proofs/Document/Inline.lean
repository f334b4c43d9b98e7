import Mathlib.Logic.Relation
import RamlExpress.Proofs.Document.Types
import RamlExpress.Proofs.Yaml.Nesting

/-!
# Proofs/Document/Inline — a declaration in the place of its name

    the name, `schema: name`, `type: name` ──▸ the schema it stands for = that of the declaration

A name that is declared once, by a value that needs no names itself, stands for the schema of that
value (`get?_of_declaredIn`).  So a media type that refers to the name may be exchanged for the
declaration (`Inlines`).  One entry is exchanged at a time; the entries around it, at every level of
the document, count as before (`Exchanges.congr`, `Exchanges.lookup_cases`).

* `load_inlined` — the document describes the same API with the declaration in place.
* `not_load_inlined_deep` — …but the declaration may be too deep for a text.
-/

namespace RamlExpress

open Yaml (Value)

namespace Document

/-! ## Exchanges in a document -/

/-- **One entry is exchanged** for another with the same key. -/
inductive Exchanges (R : Value → Value → Value → Prop) :
    List (Value × Value) → List (Value × Value) → Prop
  | intro {key value value' : Value} (before after : List (Value × Value)) : R key value value' →
    Exchanges R (before ++ (key, value) :: after) (before ++ (key, value') :: after)

/-- Something is exchanged inside the tags of a mapping. -/
inductive InMapping (R : List (Value × Value) → List (Value × Value) → Prop) :
    Value → Value → Prop
  | mapping {entries entries' : List (Value × Value)} : R entries entries' →
    InMapping R (.mapping entries) (.mapping entries')
  | tagged (name : String) {value value' : Value} : InMapping R value value' →
    InMapping R (.tagged name value) (.tagged name value')

/-- **A media type refers to a name**: it is the name, has it as its schema, or has it as its type
where it has neither a schema nor properties. -/
inductive RefersTo (name : String) : Value → Prop
  | text : RefersTo name (.string name)
  | schema {value : Value} {entries : List (Value × Value)} : value.untagged = .mapping entries →
    Value.lookup "schema" entries = some (.string name) → RefersTo name value
  | type {value : Value} {entries : List (Value × Value)} : value.untagged = .mapping entries →
    Value.lookup "schema" entries = none → Value.lookup "properties" entries = none →
    Value.lookup "type" entries = some (.string name) → RefersTo name value

variable (name : String) (declaration : Value)

/-- A media type of a body that refers to the name is exchanged for the declaration. -/
def InlinesBody : Value → Value → Prop :=
  InMapping fun entries entries' => listsMediaTypes entries = true
    ∧ Exchanges (fun _ value value' => RefersTo name value ∧ value' = declaration) entries entries'

/-- …in the body that stands among some entries. -/
def InlinesBodyIn : List (Value × Value) → List (Value × Value) → Prop :=
  Exchanges fun key body body' => key = .string "body" ∧ InlinesBody name declaration body body'

/-- …in one of some responses. -/
def InlinesResponses : Value → Value → Prop :=
  InMapping (Exchanges fun _ response response' =>
    InMapping (InlinesBodyIn name declaration) response response')

/-- …in a method, in its body or in its responses. -/
def InlinesMethod : Value → Value → Prop :=
  InMapping fun entries entries' => InlinesBodyIn name declaration entries entries'
    ∨ Exchanges (fun key responses responses' => key = .string "responses"
      ∧ InlinesResponses name declaration responses responses') entries entries'

/-- …in a resource, in one of its methods or in a resource below. -/
inductive InlinesResource : Value → Value → Prop
  | method {key value value' : Value} {text : String} (before after : List (Value × Value)) :
    keyText? key = some text → namesResource text = false →
    InlinesMethod name declaration value value' →
    InlinesResource (.mapping (before ++ (key, value) :: after))
      (.mapping (before ++ (key, value') :: after))
  | child {key value value' : Value} {text : String} (before after : List (Value × Value)) :
    keyText? key = some text → namesResource text = true → InlinesResource value value' →
    InlinesResource (.mapping (before ++ (key, value) :: after))
      (.mapping (before ++ (key, value') :: after))
  | tagged (tag : String) {value value' : Value} : InlinesResource value value' →
    InlinesResource (.tagged tag value) (.tagged tag value')

/-- **A media type that refers to the name is exchanged for the declaration**, somewhere in the
resources of a document. -/
def Inlines : List (Value × Value) → List (Value × Value) → Prop :=
  Exchanges fun key value value' => (∃ text, keyText? key = some text ∧ namesResource text = true)
    ∧ InlinesResource name declaration value value'

variable {name declaration}

/-- **What is computed entry by entry** is the same if the two entries count for the same. -/
theorem Exchanges.congr {α : Type} {R S : Value → Value → Value → Prop}
    {f : List (Value × Value) → α} {entries entries' : List (Value × Value)}
    (h : Exchanges R entries entries')
    (hcons : ∀ {key value value' rest rest'}, S key value value' → f rest = f rest' →
      f ((key, value) :: rest) = f ((key, value') :: rest'))
    (hrefl : ∀ key value, S key value value)
    (hR : ∀ {key value value'}, R key value value' → S key value value') :
    f entries = f entries' := by
  obtain ⟨before, after, hexchange⟩ := h
  induction before with
  | nil => exact hcons (hR hexchange) rfl
  | cons entry rest ih => exact hcons (hrefl _ _) ih

theorem InMapping.exists_untagged {R : List (Value × Value) → List (Value × Value) → Prop}
    {value value' : Value} (h : InMapping R value value') :
    ∃ entries entries', value.untagged = .mapping entries ∧ value'.untagged = .mapping entries'
      ∧ R entries entries' := by
  induction h with
  | mapping hR => exact ⟨_, _, rfl, rfl, hR⟩
  | tagged _ _ ih => exact ih

theorem lookup_cons (name : String) (entry : Value × Value) (rest : List (Value × Value)) :
    Value.lookup name (entry :: rest)
      = if entry.1.string? = some name then some entry.2 else Value.lookup name rest := by
  by_cases h : entry.1.string? = some name
  · simp [Value.lookup, h]
  · simp [Value.lookup, h]

/-- What is looked up is the same, or the two entries themselves. -/
theorem Exchanges.lookup_cases {R : Value → Value → Value → Prop}
    {entries entries' : List (Value × Value)} (h : Exchanges R entries entries') (name : String) :
    Value.lookup name entries = Value.lookup name entries'
      ∨ ∃ key value value', key.string? = some name ∧ R key value value'
        ∧ Value.lookup name entries = some value ∧ Value.lookup name entries' = some value' := by
  obtain ⟨before, after, hexchange⟩ := h
  induction before with
  | nil =>
    rename_i key value value'
    by_cases hkey : key.string? = some name
    · exact .inr ⟨key, value, value', hkey, hexchange, by simp [lookup_cons, hkey],
        by simp [lookup_cons, hkey]⟩
    · exact .inl (by simp [lookup_cons, hkey])
  | cons entry rest ih =>
    simp only [List.cons_append, lookup_cons]
    split
    · exact .inl rfl
    · exact ih

/-- What stands under another key is the same. -/
theorem Exchanges.lookup_eq {R : Value → Value → Value → Prop}
    {entries entries' : List (Value × Value)} (h : Exchanges R entries entries') {name : String}
    (hR : ∀ {key value value'}, R key value value' → key.string? ≠ some name) :
    Value.lookup name entries = Value.lookup name entries' := by
  obtain hsame | ⟨key, value, value', hkey, hexchange, -⟩ := h.lookup_cases name
  · exact hsame
  · exact absurd hkey (hR hexchange)

theorem Exchanges.lookup_eq_of_ne {R : Value → Value → Prop} {field : String}
    {entries entries' : List (Value × Value)}
    (h : Exchanges (fun key value value' => key = .string field ∧ R value value') entries entries')
    {name : String} (hne : field ≠ name) :
    Value.lookup name entries = Value.lookup name entries' := by
  refine h.lookup_eq ?_
  rintro _ value value' ⟨rfl, -⟩ hkey
  exact hne (Option.some.inj hkey)

/-! ## Bodies, methods and resources -/

/-- A name that is trimmed and does not start with a brace is no object. -/
theorem not_looksLikeObject (htrim : Text.trim name = name)
    (hbrace : name.toList.head? ≠ some '\x7b') : Origin.looksLikeObject name.toList = false := by
  have hchars : Text.trimEnd (Text.trimStart name.toList) = name.toList := by
    rw [← String.toList_ofList (l := Text.trimEnd _)]
    exact congrArg String.toList htrim
  have hend : (Text.trimEnd (Text.trimStart name.toList)).length
      ≤ (Text.trimStart name.toList).length := by
    rw [Text.trimEnd, List.length_reverse]
    exact (List.dropWhile_suffix _).length_le.trans_eq List.length_reverse
  rw [hchars] at hend
  have hstart : Text.trimStart name.toList = name.toList :=
    (List.dropWhile_suffix _).eq_of_length_le hend
  rw [Origin.looksLikeObject, hstart]
  simpa using hbrace

theorem RefersTo.names {origin : Origin} {value : Value} (h : RefersTo name value)
    (htrim : Text.trim name = name) (hbrace : name.toList.head? ≠ some '\x7b') :
    origin.Names value name := by
  have hresolve (named : NamedSchemas) :
      (origin.resolve named (.string name)).result = .ok (named.get? name) := by
    simp only [Origin.resolve, Origin.resolveWithin]
    rw [Origin.result_ofText_of_not_object (not_looksLikeObject htrim hbrace), htrim]
  intro named
  cases h with
  | text => exact hresolve named
  | schema hentries hschema =>
    simp only [Origin.schemaOf, hentries, Value.entries?, hschema]
    exact hresolve named
  | type hentries hschema hproperties htype =>
    simp only [Origin.schemaOf, hentries, Value.entries?, hschema, hproperties, htype]
    exact hresolve named

section Loading

variable {c : Conventions}

theorem mediaTypes_cons {key value value' : Value} {rest rest' : List (Value × Value)}
    (hvalue : (c.origin.schemaOf c.named value).result
      = (c.origin.schemaOf c.named value').result)
    (hrest : (mediaTypes c rest).result = (mediaTypes c rest').result) :
    (mediaTypes c ((key, value) :: rest)).result
      = (mediaTypes c ((key, value') :: rest')).result := by
  simp only [mediaTypes]
  cases keyText? key with
  | none => exact hrest
  | some contentType => simp only [Logged.result_bind, hvalue, hrest]

theorem responsesOf_cons {key value value' : Value} {rest rest' : List (Value × Value)}
    (hvalue : (bodyIn c (value.untagged.entries?.getD [])).result
      = (bodyIn c (value'.untagged.entries?.getD [])).result)
    (hrest : (responsesOf c rest).result = (responsesOf c rest').result) :
    (responsesOf c ((key, value) :: rest)).result
      = (responsesOf c ((key, value') :: rest')).result := by
  simp only [responsesOf]
  cases key.scalarText? with
  | none => exact hrest
  | some status => simp only [Logged.result_bind, hvalue, hrest]

/-- A member of a resource counts by the resource or the method that it is. -/
def SameMember (c : Conventions) (key value value' : Value) : Prop :=
  ∀ text, keyText? key = some text →
    (namesResource text = true →
      (resourceOf c text value).result = (resourceOf c text value').result)
    ∧ (namesResource text = false → ∀ verb,
      (methodOf c verb value).result = (methodOf c verb value').result)

theorem SameMember.refl (key value : Value) : SameMember c key value value :=
  fun _ _ => ⟨fun _ => rfl, fun _ _ => rfl⟩

theorem membersOf_cons {uri : String} {key value value' : Value} {rest rest' : List (Value × Value)}
    (hvalue : SameMember c key value value')
    (hrest : (membersOf c uri rest).result = (membersOf c uri rest').result) :
    (membersOf c uri ((key, value) :: rest)).result
      = (membersOf c uri ((key, value') :: rest')).result := by
  simp only [membersOf]
  cases hkey : keyText? key with
  | none => exact hrest
  | some text =>
    obtain ⟨hresource, hmethod⟩ := hvalue text hkey
    simp only
    split
    · rename_i hnames
      simp only [Logged.result_bind, hresource hnames, hrest]
    · rename_i hnames
      cases Verb.ofKey? text with
      | some verb => simp only [Logged.result_bind, hmethod (by simpa using hnames), hrest]
      | none =>
        simp only
        split
        · simp only [Logged.result_bind, hrest]
        · exact hrest

theorem resourcesOf_cons {key value value' : Value} {rest rest' : List (Value × Value)}
    (hvalue : SameMember c key value value')
    (hrest : (resourcesOf c rest).result = (resourcesOf c rest').result) :
    (resourcesOf c ((key, value) :: rest)).result
      = (resourcesOf c ((key, value') :: rest')).result := by
  simp only [resourcesOf]
  cases hkey : keyText? key with
  | none => exact hrest
  | some text =>
    simp only
    split
    · rename_i hnames
      simp only [Logged.result_bind, (hvalue text hkey).1 hnames, hrest]
    · exact hrest

variable (hrefers : ∀ {value}, RefersTo name value →
  (c.origin.schemaOf c.named value).result = (c.origin.schemaOf c.named declaration).result)

include hrefers

theorem bodyOf_of_inlinesBody {body body' : Value} (h : InlinesBody name declaration body body') :
    (bodyOf c body).result = (bodyOf c body').result := by
  obtain ⟨entries, entries', hbody, hbody', hlists, hentries⟩ := h.exists_untagged
  -- The keys decide whether a body lists media types, and they stay.
  have hlists' : listsMediaTypes entries' = true := by
    rw [← hlists]
    refine (hentries.congr (S := fun _ _ _ => True) (fun _ hrest => ?_) (fun _ _ => trivial)
      fun _ => trivial).symm
    simp only [listsMediaTypes, List.any_cons] at hrest ⊢
    rw [hrest]
  simp only [bodyOf, hbody, hbody', Value.entries?, hlists, hlists', if_true]
  refine hentries.congr (f := fun entries => (mediaTypes c entries).result) mediaTypes_cons
    (fun _ _ => rfl) ?_
  rintro key value value' ⟨hvalue, rfl⟩
  exact hrefers hvalue

theorem bodyIn_of_inlinesBodyIn {entries entries' : List (Value × Value)}
    (h : InlinesBodyIn name declaration entries entries') :
    (bodyIn c entries).result = (bodyIn c entries').result := by
  obtain hsame | ⟨key, body, body', -, ⟨-, hbody⟩, hlookup, hlookup'⟩ := h.lookup_cases "body"
  · rw [bodyIn, bodyIn, hsame]
  · rw [bodyIn, bodyIn, hlookup, hlookup']
    exact bodyOf_of_inlinesBody hrefers hbody

theorem responsesOf_of_inlines {entries entries' : List (Value × Value)}
    (h : Exchanges (fun _ response response' =>
      InMapping (InlinesBodyIn name declaration) response response') entries entries') :
    (responsesOf c entries).result = (responsesOf c entries').result := by
  refine h.congr (f := fun entries => (responsesOf c entries).result) responsesOf_cons
    (fun _ _ => rfl) fun hresponse => ?_
  obtain ⟨members, members', hmembers, hmembers', hbody⟩ := hresponse.exists_untagged
  simp only [hmembers, hmembers', Value.entries?, Option.getD_some]
  exact bodyIn_of_inlinesBodyIn hrefers hbody

theorem methodOf_of_inlinesMethod {value value' : Value}
    (h : InlinesMethod name declaration value value') (verb : Verb) :
    (methodOf c verb value).result = (methodOf c verb value').result := by
  obtain ⟨entries, entries', hvalue, hvalue', hbody | hresponses⟩ := h.exists_untagged
  · have hlookup : Value.lookup "responses" entries = Value.lookup "responses" entries' :=
      hbody.lookup_eq_of_ne (by decide)
    simp only [methodOf, hvalue, hvalue', Value.entries?, Logged.result_bind, hlookup,
      bodyIn_of_inlinesBodyIn hrefers hbody]
  · have hlookup : Value.lookup "body" entries = Value.lookup "body" entries' :=
      hresponses.lookup_eq_of_ne (by decide)
    have hbodyIn : (bodyIn c entries).result = (bodyIn c entries').result := by
      rw [bodyIn, bodyIn, hlookup]
    simp only [methodOf, hvalue, hvalue', Value.entries?, Logged.result_bind, hbodyIn]
    obtain hsame | ⟨key, value, value', -, ⟨-, hexchange⟩, hfound, hfound'⟩ :=
      hresponses.lookup_cases "responses"
    · simp only [hsame]
    · simp only [hfound, hfound']
      cases hexchange with
      | mapping hentries => simp only [Logged.result_bind, responsesOf_of_inlines hrefers hentries]
      | tagged _ _ => rfl

/-- **A resource is the same with the declaration in the place of its name.** -/
theorem resourceOf_of_inlinesResource {value value' : Value}
    (h : InlinesResource name declaration value value') (uri : String) :
    (resourceOf c uri value).result = (resourceOf c uri value').result := by
  have hmembers {key value value' : Value} (before after : List (Value × Value))
      (hmember : SameMember c key value value') (uri : String) :
      (membersOf c uri (before ++ (key, value) :: after)).result
        = (membersOf c uri (before ++ (key, value') :: after)).result :=
    Exchanges.congr (f := fun entries => (membersOf c uri entries).result)
      (.intro (R := SameMember c) before after hmember) membersOf_cons SameMember.refl id
  induction h generalizing uri with
  | method before after hkey hnames hmethod =>
    simp only [resourceOf, Logged.result_bind]
    rw [hmembers before after _ uri]
    intro text htext
    obtain rfl := Option.some.inj (hkey.symm.trans htext)
    exact ⟨fun hnames' => absurd hnames' (by simp [hnames]),
      fun _ verb => methodOf_of_inlinesMethod hrefers hmethod verb⟩
  | child before after hkey hnames _ ih =>
    simp only [resourceOf, Logged.result_bind]
    rw [hmembers before after _ uri]
    intro text htext
    obtain rfl := Option.some.inj (hkey.symm.trans htext)
    exact ⟨fun _ => ih _, fun hnames' => absurd hnames (by simp [hnames'])⟩
  | tagged _ _ ih =>
    simp only [resourceOf]
    exact ih uri

theorem resourcesOf_of_inlines {root root' : List (Value × Value)}
    (h : Inlines name declaration root root') :
    (resourcesOf c root).result = (resourcesOf c root').result := by
  refine h.congr (f := fun entries => (resourcesOf c entries).result) resourcesOf_cons
    SameMember.refl ?_
  rintro key value value' ⟨⟨text, hkey, hnames⟩, hresource⟩ text' htext
  obtain rfl := Option.some.inj (hkey.symm.trans htext)
  exact ⟨fun _ => resourceOf_of_inlinesResource hrefers hresource text,
    fun hnames' => absurd hnames (by simp [hnames'])⟩

end Loading

/-! ## The named schemas -/

/-- **The declarations of a document**, those of its schemas before those of its types. -/
def declaredIn (root : List (Value × Value)) : List (String × Value) :=
  (declarationsIn (Value.lookup "schemas" root)
    ++ declarationsIn (Value.lookup "types" root)).flatMap declarations

theorem result_namedSchemas_eq (origin : Origin) (root : List (Value × Value)) :
    (namedSchemas origin root).result = (declaredIn root).foldlM (declare origin) .empty := by
  rw [namedSchemas, Logged.result_foldlM, declaredIn]
  generalize declarationsIn _ ++ declarationsIn _ = mappings
  generalize OrderedMap.empty = named
  induction mappings generalizing named with
  | nil => rfl
  | cons entries rest ih =>
    rw [List.foldlM_cons, List.flatMap_cons, List.foldlM_append, result_addNamed]
    simp only [ih]

variable {origin : Origin}

/-- Declarations of other names do not change what a name stands for. -/
theorem get?_of_foldlM_declare {others : List (String × Value)} {named named' : NamedSchemas}
    (h : others.foldlM (declare origin) named = .ok named')
    (hname : ∀ other ∈ others, other.1 ≠ name) : named'.get? name = named.get? name := by
  induction others generalizing named with
  | nil => rw [Except.ok.inj h]
  | cons other rest ih =>
    obtain ⟨hother, hrest⟩ := List.forall_mem_cons.1 hname
    obtain ⟨between, hbetween, h⟩ := bind_eq_ok_iff.1 h
    rw [ih h hrest]
    obtain ⟨schema, -, hbetween⟩ := bind_eq_ok_iff.1 hbetween
    cases schema with
    | none => rw [Except.ok.inj hbetween]
    | some schema =>
      rw [← Except.ok.inj hbetween, OrderedMap.get?_insert, if_neg (Ne.symm hother)]

/-- **A name that is declared once stands for the schema of its declaration**, if that is the same
whatever is named. -/
theorem get?_of_declaredIn {root : List (Value × Value)} {named : NamedSchemas}
    (hnamed : (namedSchemas origin root).result = .ok named)
    (honce : (declaredIn root).filter (·.1 = name) = [(name, declaration)])
    (hfixed : origin.IsFixed declaration) :
    (origin.schemaOf named declaration).result = .ok (named.get? name) := by
  -- What is declared before does not have the name, and what is declared behind leaves it alone.
  obtain ⟨before, after, hdeclared, hbefore, -, hafter⟩ := List.filter_eq_cons_iff.1 honce
  rw [result_namedSchemas_eq, hdeclared, List.foldlM_append, bind_eq_ok_iff] at hnamed
  obtain ⟨first, hfirst, hnamed⟩ := hnamed
  rw [List.foldlM_cons, bind_eq_ok_iff] at hnamed
  obtain ⟨second, hsecond, hnamed⟩ := hnamed
  have hunnamed : first.get? name = none := by
    rw [get?_of_foldlM_declare hfirst fun other hother => by simpa using hbefore other hother,
      OrderedMap.get?_empty]
  rw [get?_of_foldlM_declare hnamed fun other hother => by
    simpa using List.filter_eq_nil_iff.1 hafter other hother]
  obtain ⟨schema, hschema, hsecond⟩ := bind_eq_ok_iff.1 hsecond
  rw [hfixed named first, hschema]
  cases schema with
  | none => rw [← Except.ok.inj hsecond, hunnamed]
  | some schema => rw [← Except.ok.inj hsecond, OrderedMap.get?_insert, if_pos rfl]

/-! ## Documents -/

section Document

variable {root root' : List (Value × Value)}

/-- What stands in the root under a name that is no resource is the same. -/
theorem Inlines.lookup_eq (h : Inlines name declaration root root') {field : String}
    (hfield : namesResource field = false) :
    Value.lookup field root = Value.lookup field root' := by
  refine Exchanges.lookup_eq h ?_
  rintro key value value' ⟨⟨text, hkey, hnames⟩, -⟩ hfound
  cases key with
  | string key =>
    obtain rfl := Option.some.inj hkey
    obtain rfl := Option.some.inj hfound
    exact absurd hnames (by simp [hfield])
  | _ => contradiction

theorem Inlines.declaredIn_eq (h : Inlines name declaration root root') :
    declaredIn root = declaredIn root' := by
  rw [declaredIn, declaredIn, h.lookup_eq (show namesResource "schemas" = false by decide),
    h.lookup_eq (show namesResource "types" = false by decide)]

/-- **The API is the same with the declaration in the place of its name**, once. -/
theorem result_ofRoot_of_inlines (htrim : Text.trim name = name)
    (hbrace : name.toList.head? ≠ some '\x7b')
    (honce : (declaredIn root).filter (·.1 = name) = [(name, declaration)])
    (hfixed : origin.IsFixed declaration) (h : Inlines name declaration root root') :
    (Api.ofRoot origin root).result = (Api.ofRoot origin root').result := by
  have hnamed : (namedSchemas origin root).result = (namedSchemas origin root').result := by
    rw [result_namedSchemas_eq, result_namedSchemas_eq, h.declaredIn_eq]
  rw [result_ofRoot, result_ofRoot, mediaTypeOf, mediaTypeOf, ← hnamed,
    h.lookup_eq (show namesResource "mediaType" = false by decide),
    h.lookup_eq (show namesResource "title" = false by decide),
    h.lookup_eq (show namesResource "version" = false by decide)]
  cases hdeclared : (namedSchemas origin root).result with
  | error failure => rfl
  | ok named =>
    have hrefers {value : Value} (hvalue : RefersTo name value) :
        (origin.schemaOf named value).result = (origin.schemaOf named declaration).result := by
      rw [hvalue.names htrim hbrace named, get?_of_declaredIn hdeclared honce hfixed]
    rw [ok_bind, ok_bind, resourcesOf_of_inlines hrefers h]

end Document

end Document

open Document

/-- **A name may be written out.**  If a name is declared once, by a value that has the same schema
whatever is named, that value may stand in the place of all media types that refer to the name: the
document describes the same API or fails alike, and so do any two texts of the two documents.  There
is no such text if collections come to nest deeper than a text allows. -/
theorem load_inlined (origin : Origin) {root root' : List (Value × Value)} {name : String}
    {declaration : Value} (htrim : Text.trim name = name)
    (hbrace : name.toList.head? ≠ some '\x7b')
    (honce : (declaredIn root).filter (·.1 = name) = [(name, declaration)])
    (hfixed : origin.IsFixed declaration)
    (hinlines : Relation.ReflTransGen (Inlines name declaration) root root') :
    (Api.ofRoot origin root).result = (Api.ofRoot origin root').result
      ∧ (∀ text text', Value.parse text = .ok (.mapping root) →
        Value.parse text' = .ok (.mapping root') →
        (Api.ofText origin text).result = (Api.ofText origin text').result)
      ∧ ∀ text', Value.parse text' = .ok (.mapping root') →
        (Value.mapping root').nesting ≤ Value.maxDepth := by
  -- The name is declared once all along: no step touches a declaration.
  have hroot : (Api.ofRoot origin root).result = (Api.ofRoot origin root').result
      ∧ declaredIn root = declaredIn root' := by
    induction hinlines with
    | refl => exact ⟨rfl, rfl⟩
    | tail _ hstep ih =>
      obtain ⟨hresult, hdeclared⟩ := ih
      exact ⟨hresult.trans (result_ofRoot_of_inlines htrim hbrace (hdeclared ▸ honce) hfixed hstep),
        hdeclared.trans hstep.declaredIn_eq⟩
  refine ⟨hroot.1, fun text text' htext htext' => ?_, fun text' => Value.nesting_le_of_parse⟩
  rw [result_ofText htext, result_ofText htext', hroot.1]

/-- The value that a letter is declared by. -/
def letterDeclaration : Value := .string "\x7b\x7d"

/-- A desk on which letters are put, with the media types of its bodies. -/
def deskText (request answer other : String) : String := String.join [
  "types: [\x7bLetter: '\x7b\x7d'\x7d]\n", "/desk: \x7b/letters: \x7bput: \x7b",
  "body: \x7ba/b: ", request, "\x7d, ", "responses: \x7b200: \x7b",
  "body: \x7ba/b: ", answer, ", c/d: ", other, "\x7d\x7d\x7d\x7d\x7d\x7d\n"]

/-- …its method as entries… -/
def deskMethod (request answer other : Value) : List (Value × Value) := [
  (.string "body", .mapping [(.string "a/b", request)]),
  (.string "responses", .mapping [(.number (.integer 200), .mapping [(.string "body",
    .mapping [(.string "a/b", answer), (.string "c/d", other)])])])]

/-- …and the root of the document. -/
def deskRoot (request answer other : Value) : List (Value × Value) := [
  (.string "types", .sequence [.mapping [(.string "Letter", letterDeclaration)]]),
  (.string "/desk", .mapping [(.string "/letters", .mapping [(.string "put",
    .mapping (deskMethod request answer other))])])]

section Desk

variable {request request' answer answer' other other' : Value}

theorem inlines_deskRoot
    (h : InlinesMethod "Letter" letterDeclaration (.mapping (deskMethod request answer other))
      (.mapping (deskMethod request' answer' other'))) :
    Inlines "Letter" letterDeclaration (deskRoot request answer other)
      (deskRoot request' answer' other') :=
  .intro [_] [] ⟨⟨"/desk", rfl, by decide⟩,
    .child [] [] (show keyText? (.string "/letters") = some "/letters" from rfl) (by decide)
      (.method [] [] (show keyText? (.string "put") = some "put" from rfl) (by decide) h)⟩

theorem inlines_request (h : RefersTo "Letter" request) :
    Inlines "Letter" letterDeclaration (deskRoot request answer other)
      (deskRoot letterDeclaration answer other) :=
  inlines_deskRoot (.mapping (.inl (.intro [] [_] ⟨rfl,
    .mapping ⟨rfl, .intro [] [] ⟨h, rfl⟩⟩⟩)))

theorem inlines_answer (h : RefersTo "Letter" answer) :
    Inlines "Letter" letterDeclaration (deskRoot request answer other)
      (deskRoot request letterDeclaration other) :=
  inlines_deskRoot (.mapping (.inr (.intro [_] [] ⟨rfl, .mapping (.intro [] [] (.mapping
    (.intro [] [] ⟨rfl, .mapping ⟨rfl, .intro [] [_] ⟨h, rfl⟩⟩⟩)))⟩)))

theorem inlines_other (h : RefersTo "Letter" other) :
    Inlines "Letter" letterDeclaration (deskRoot request answer other)
      (deskRoot request answer letterDeclaration) :=
  inlines_deskRoot (.mapping (.inr (.intro [_] [] ⟨rfl, .mapping (.intro [] [] (.mapping
    (.intro [] [] ⟨rfl, .mapping ⟨rfl, .intro [_] [] ⟨h, rfl⟩⟩⟩)))⟩)))

end Desk

theorem isFixed_letterDeclaration (origin : Origin) : origin.IsFixed letterDeclaration :=
  fun _ _ => rfl

/-- What a document says about a desk whose bodies are letters. -/
def deskMethods : List Method := [{
  verb := .put
  body := [⟨"a/b", some "\x7b\x7d"⟩]
  responses := [⟨"200", [⟨"a/b", some "\x7b\x7d"⟩, ⟨"c/d", some "\x7b\x7d"⟩]⟩] }]

/-- The three forms of a reference, written out. -/
theorem load_inlined_desk : ∃ api : Api,
    (Api.ofText ⟨{}, ""⟩
        (deskText "Letter" "\x7bschema: Letter\x7d" "\x7btype: Letter\x7d")).result = .ok api
      ∧ (Api.ofText ⟨{}, ""⟩
        (deskText "'\x7b\x7d'" "'\x7b\x7d'" "'\x7b\x7d'")).result = .ok api
      ∧ (api.resources.flatMap Resource.children).flatMap Resource.methods = deskMethods := by
  let schema : Value := .mapping [(.string "schema", .string "Letter")]
  let type : Value := .mapping [(.string "type", .string "Letter")]
  have htext : Value.parse (deskText "Letter" "\x7bschema: Letter\x7d" "\x7btype: Letter\x7d")
      = .ok (.mapping (deskRoot (.string "Letter") schema type)) := by
    -- To decode the pieces of a text is much less work than to decode the whole.
    rw [Value.parse, Yaml.Token.scan, deskText, String.toList_join]
    decide +kernel
  have htext' : Value.parse (deskText "'\x7b\x7d'" "'\x7b\x7d'" "'\x7b\x7d'")
      = .ok (.mapping (deskRoot letterDeclaration letterDeclaration letterDeclaration)) := by
    rw [Value.parse, Yaml.Token.scan, deskText, String.toList_join]
    decide +kernel
  have hinlines : Relation.ReflTransGen (Inlines "Letter" letterDeclaration)
      (deskRoot (.string "Letter") schema type)
      (deskRoot letterDeclaration letterDeclaration letterDeclaration) := by
    have hschema : RefersTo "Letter" schema := .schema rfl rfl
    have htype : RefersTo "Letter" type := .type rfl rfl rfl rfl
    exact ((Relation.ReflTransGen.single (inlines_request .text)).tail
      (inlines_answer hschema)).tail (inlines_other htype)
  have hroot : (Api.ofRoot ⟨{}, ""⟩ (deskRoot (.string "Letter") schema type)).result.toOption.map
      (fun api => (api.resources.flatMap Resource.children).flatMap Resource.methods)
        = some deskMethods := by
    decide +kernel
  obtain ⟨api, hload, hmethods⟩ := exists_of_ofRoot htext _ hroot
  obtain ⟨-, hsame, -⟩ := load_inlined ⟨{}, ""⟩ (by decide +kernel) (by decide +kernel)
    (by decide +kernel) (isFixed_letterDeclaration _) hinlines
  exact ⟨api, hload, hsame _ _ htext htext' ▸ hload, hmethods⟩

/-! ## Deep declarations -/

/-- Lists in lists… -/
def nestedLists : Nat → Value
  | 0 => .string "end"
  | count + 1 => .sequence [nestedLists count]

/-- …and as the pieces of a text. -/
def nestedListsPieces (count : Nat) : List String := List.replicate count "- " ++ ["end\n"]

/-- A declaration of 125 collections, one in the other. -/
def deepDeclaration : Value := .mapping [(.string "properties", nestedLists 124)]

/-- …as the pieces of a text behind the key of a media type. -/
def deepDeclarationPieces : List String :=
  "\n    properties:\n     " :: nestedListsPieces 124

/-- A document with that declaration, and with a media type of a body. -/
def deepText (mediaType : List String) : String := String.join (
  "types:\n Deep:\n  properties:\n   " :: nestedListsPieces 124
    ++ "/deep:\n post:\n  body:\n   application/json:" :: mediaType)

/-- …the same as the root of a document. -/
def deepRoot (mediaType : Value) : List (Value × Value) := [
  (.string "types", .mapping [(.string "Deep", deepDeclaration)]),
  (.string "/deep", .mapping [(.string "post", .mapping [(.string "body",
    .mapping [(.string "application/json", mediaType)])])])]

theorem parse_deepText :
    Value.parse (deepText [" Deep\n"]) = .ok (.mapping (deepRoot (.string "Deep"))) := by
  rw [Value.parse, Yaml.Token.scan, deepText, String.toList_join]
  decide +kernel

theorem parse_deepText_deepDeclarationPieces :
    (Value.parse (deepText deepDeclarationPieces)).toOption = none := by
  rw [Value.parse, Yaml.Token.scan, deepText, String.toList_join]
  decide +kernel

theorem isFixed_properties (origin : Origin) (properties : Value) :
    origin.IsFixed (.mapping [(.string "properties", properties)]) :=
  fun _ _ => rfl

theorem inlines_deepRoot (declaration : Value) :
    Inlines "Deep" declaration (deepRoot (.string "Deep")) (deepRoot declaration) :=
  .intro [_] [] ⟨⟨"/deep", rfl, by decide⟩,
    .method [] [] (show keyText? (.string "post") = some "post" from rfl) (by decide)
      (.mapping (.inl (.intro [] [] ⟨rfl, .mapping ⟨rfl, .intro [] [] ⟨.text, rfl⟩⟩⟩)))⟩

/-- **A declaration may be too deep to be written out.**  In a body it stands two collections deeper
than among the types: the document that names it has a text and describes an API, the one with the
declaration in the place of its name has no text, and the attempt at one describes nothing. -/
theorem not_load_inlined_deep :
    (Text.trim "Deep" = "Deep" ∧ "Deep".toList.head? ≠ some '\x7b'
      ∧ (declaredIn (deepRoot (.string "Deep"))).filter (·.1 = "Deep") = [("Deep", deepDeclaration)]
      ∧ Origin.IsFixed ⟨{}, ""⟩ deepDeclaration
      ∧ Inlines "Deep" deepDeclaration (deepRoot (.string "Deep")) (deepRoot deepDeclaration))
    ∧ Value.parse (deepText [" Deep\n"]) = .ok (.mapping (deepRoot (.string "Deep")))
    ∧ (∃ api, (Api.ofText ⟨{}, ""⟩ (deepText [" Deep\n"])).result = .ok api)
    ∧ (∀ text, Value.parse text ≠ .ok (.mapping (deepRoot deepDeclaration)))
    ∧ ∀ api, (Api.ofText ⟨{}, ""⟩ (deepText deepDeclarationPieces)).result ≠ .ok api := by
  have hroot : (Api.ofRoot ⟨{}, ""⟩ (deepRoot (.string "Deep"))).result.toOption.map
      (·.resources.length) = some 1 := by
    decide +kernel
  have hdeep : Value.maxDepth < (Value.mapping (deepRoot deepDeclaration)).nesting := by
    decide +kernel
  obtain ⟨api, hload, -⟩ := exists_of_ofRoot parse_deepText _ hroot
  refine ⟨⟨by decide +kernel, by decide +kernel, by decide +kernel, isFixed_properties _ _,
    inlines_deepRoot _⟩, parse_deepText, ⟨api, hload⟩, fun text h => ?_, fun api h => ?_⟩
  · exact absurd (Value.nesting_le_of_parse h) (Nat.not_le.2 hdeep)
  · obtain ⟨root, hparse⟩ := exists_root_of_ofText h
    have hfails := parse_deepText_deepDeclarationPieces
    rw [hparse] at hfails
    exact Option.some_ne_none _ hfails

end RamlExpress
