import Mathlib.Data.List.Forall2
import RamlExpress.Proofs.Document.Quiet
import RamlExpress.Proofs.Document.Types
import RamlExpress.Proofs.Nesting
import RamlExpress.Proofs.Program
import RamlExpress.Proofs.Yaml.WellFormed

/-!
# Proofs/Document/Mirror — the tree of an API mirrors its document

    keys, read depth first ──▸ the keys that name resources = the nodes, parents first
                           ──▸ the keys of methods without code = the warnings

Loading keeps each key that names a resource, makes up none, and looks through tags.  A mapping has
no key twice, but it may have a key with a tag and without; so a resource has a method twice just
when two of its keys differ in their tags alone, and the same goes for its children.

* `Document.adds_of_membersOf` — what one entry of a resource adds.
* `Document.forestMirrors_of_resourcesOf` — the resources of a document mirror its root.
* `Document.nodup_filterMap_iff` — what the keys of a mapping give is given once.
* `load_mirrors_document` — loading loses and invents no resource, method or warning.
* `load_repeats_tagged_keys` — …but a tag makes a method and a resource come twice.
-/

namespace RamlExpress

open Yaml (Value)

/-! ## Reading a document depth first -/

namespace Document

/-- **A key of a document**: the keys of the resources it stands in, its own text, and its value. -/
structure Place where
  path : List String
  key : String
  value : Value

mutual

/-- **The keys below a value, read depth first**, if the value is reached by a path of keys.  Only
under a key that names a resource are there more keys to read. -/
def reading (path : List String) : Value → List Place
  | .mapping entries => readingIn path entries
  | .tagged _ value => reading path value
  | _ => []

/-- The keys in the entries of a mapping and below them. -/
def readingIn (path : List String) : List (Value × Value) → List Place
  | [] => []
  | (key, value) :: rest =>
    match keyText? key with
    | none => readingIn path rest
    | some key =>
      let below := if namesResource key then reading (path ++ [key]) value else []
      ⟨path, key, value⟩ :: (below ++ readingIn path rest)

end

/-- The entries of a value that is a mapping, inside its tags. -/
def membersIn (value : Value) : List (Value × Value) := value.untagged.entries?.getD []

/-- The relative path that an entry has if its key names a resource. -/
def resourceKey? (entry : Value × Value) : Option String :=
  (keyText? entry.1).filter namesResource

/-- The verb that the key of an entry stands for. -/
def verbKey? (entry : Value × Value) : Option Verb := (keyText? entry.1).bind Verb.ofKey?

/-- The warning about a key of the resource at a relative path, if it is that of a method which
gives no code. -/
def skipped? (uri key : String) : Option String :=
  if key ∈ unsupportedMethods then
    some ("Skipping unsupported method `" ++ key ++ "` on resource " ++ uri)
  else none

namespace Place

/-- The key names a resource. -/
def isResource (place : Place) : Bool := namesResource place.key

/-- The keys up to this one. -/
def fullPath (place : Place) : List String := place.path ++ [place.key]

/-- **The warning about a key**: the resource that it stands in has a method that gives no code. -/
def warning? (place : Place) : Option String := place.path.getLast?.bind (skipped? · place.key)

end Place

end Document

namespace Resource

mutual

/-- **The nodes of a tree, parents first**, each with the relative paths that lead to it. -/
def nodes (path : List String) : Resource → List (List String × Resource)
  | .mk uri segments methods children =>
    (path ++ [uri], .mk uri segments methods children) :: nodesIn (path ++ [uri]) children

/-- The nodes of trees, one tree after the other. -/
def nodesIn (path : List String) : List Resource → List (List String × Resource)
  | [] => []
  | resource :: rest => nodes path resource ++ nodesIn path rest

end

end Resource

namespace Document

open Logged

/-- **Tags are taken off one by one**, until a value has none. -/
theorem induction_on_tags {motive : Value → Prop}
    (tagged : ∀ name value, motive value → motive (.tagged name value))
    (plain : ∀ value, (∀ name inner, value ≠ .tagged name inner) → motive value) :
    ∀ value, motive value
  | .tagged name value => tagged name value (induction_on_tags tagged plain value)
  | .mapping _ => plain _ nofun
  | .null => plain _ nofun
  | .bool _ => plain _ nofun
  | .number _ => plain _ nofun
  | .string _ => plain _ nofun
  | .sequence _ => plain _ nofun

theorem reading_eq (path : List String) (value : Value) :
    reading path value = readingIn path (membersIn value) := by
  induction value using induction_on_tags with
  | tagged name value ih =>
    rw [reading, ih]
    rfl
  | plain value hplain =>
    cases value with
    | mapping entries =>
      rw [reading]
      rfl
    | tagged name inner => exact absurd rfl (hplain name inner)
    | null | bool | number | string | sequence => rfl

/-- A value describes a resource by its entries. -/
theorem resourceOf_eq (c : Conventions) (uri : String) (value : Value) :
    resourceOf c uri value = do
      let (methods, children) ← membersOf c uri (membersIn value)
      return .atUri uri methods children := by
  induction value using induction_on_tags with
  | tagged name value ih =>
    rw [resourceOf, ih]
    rfl
  | plain value hplain =>
    cases value with
    | mapping entries =>
      rw [resourceOf]
      rfl
    | tagged name inner => exact absurd rfl (hplain name inner)
    | null | bool | number | string | sequence => rfl

/-! ## Trees and their documents -/

/-- **A node mirrors a place**: it stands at its path, and has its methods and children. -/
structure NodeMirrors (node : List String × Resource) (place : Place) : Prop where
  path : node.1 = place.fullPath
  uri : node.2.uri = place.key
  slash : StartsWithSlash node.2.uri
  segments : node.2.segments = segmentsOf node.2.uri
  /-- The methods are those under the keys that stand for verbs, in order. -/
  verbs : node.2.methods.map Method.verb = (membersIn place.value).filterMap verbKey?
  /-- The children are those under the keys that name resources, in order. -/
  children : node.2.children.map Resource.uri = (membersIn place.value).filterMap resourceKey?

/-- **Trees mirror the entries of a mapping**, which warned of what they say. -/
structure ForestMirrors (path : List String) (entries : List (Value × Value))
    (resources : List Resource) (warned : List String) : Prop where
  uris : resources.map Resource.uri = entries.filterMap resourceKey?
  nodes : List.Forall₂ NodeMirrors (Resource.nodesIn path resources)
    ((readingIn path entries).filter Place.isResource)
  warned : warned = (readingIn path entries).filterMap Place.warning?

theorem forestMirrors_nil (path : List String) : ForestMirrors path [] [] [] := ⟨rfl, .nil, rfl⟩

theorem skipped?_of_namesResource {key : String} (h : namesResource key = true) (uri : String) :
    skipped? uri key = none := by
  have hall : ∀ method ∈ unsupportedMethods, namesResource method = false := by decide
  exact if_neg fun hmem => Bool.false_ne_true ((hall key hmem).symm.trans h)

theorem warning?_concat (path : List String) (uri key : String) (value : Value) :
    Place.warning? ⟨path ++ [uri], key, value⟩ = skipped? uri key := by
  simp [Place.warning?]

namespace ForestMirrors

variable {path : List String} {key : Value} {value : Value} {rest : List (Value × Value)}
  {resources : List Resource} {warned : List String}

/-- A key that is no text adds nothing. -/
theorem cons_of_none (hkey : keyText? key = none) (h : ForestMirrors path rest resources warned) :
    ForestMirrors path ((key, value) :: rest) resources warned where
  uris := by simpa [resourceKey?, hkey] using h.uris
  nodes := by simpa only [readingIn, hkey] using h.nodes
  warned := by simpa only [readingIn, hkey] using h.warned

/-- A key that names no resource adds at most a warning. -/
theorem cons_of_other {text : String} (hkey : keyText? key = some text)
    (hnot : namesResource text = false) (h : ForestMirrors path rest resources warned) :
    ForestMirrors path ((key, value) :: rest) resources
      ((Place.warning? ⟨path, text, value⟩).toList ++ warned) where
  uris := by simpa [resourceKey?, hkey, hnot] using h.uris
  nodes := by simpa [readingIn, hkey, hnot, Place.isResource] using h.nodes
  warned := by
    simp only [readingIn, hkey, hnot, Bool.false_eq_true, if_false, List.nil_append,
      List.filterMap_cons, ← h.warned]
    cases Place.warning? ⟨path, text, value⟩ <;> rfl

/-- **A key that names a resource adds a tree**, and what is warned of below it. -/
theorem cons_of_resource {uri : String} (hkey : keyText? key = some uri)
    (hnames : namesResource uri = true) {methods : List Method} {children : List Resource}
    {below : List String}
    (hbelow : ForestMirrors (path ++ [uri]) (membersIn value) children below)
    (hverbs : methods.map Method.verb = (membersIn value).filterMap verbKey?)
    (h : ForestMirrors path rest resources warned) :
    ForestMirrors path ((key, value) :: rest) (.atUri uri methods children :: resources)
      (below ++ warned) where
  uris := by
    have huri : resourceKey? (key, value) = some uri := by simp [resourceKey?, hkey, hnames]
    rw [List.filterMap_cons_some huri, List.map_cons, h.uris]
    rfl
  nodes := by
    have hslash : StartsWithSlash uri := by simpa [namesResource, StartsWithSlash] using hnames
    have hnode : NodeMirrors (path ++ [uri], .atUri uri methods children) ⟨path, uri, value⟩ :=
      ⟨rfl, rfl, hslash, rfl, hverbs, hbelow.uris⟩
    simp only [readingIn, hkey, hnames, if_true, reading_eq, List.filter_append,
      List.filter_cons_of_pos, Place.isResource, Resource.nodesIn, Resource.nodes, Resource.atUri,
      List.cons_append]
    exact .cons hnode (List.rel_append hbelow.nodes h.nodes)
  warned := by
    have hsilent : Place.warning? ⟨path, uri, value⟩ = none :=
      Option.bind_eq_none_iff.2 fun above _ => skipped?_of_namesResource hnames above
    simp only [readingIn, hkey, hnames, if_true, reading_eq, List.filterMap_cons, hsilent,
      List.filterMap_append, ← h.warned, ← hbelow.warned]

end ForestMirrors

/-! ## Loading -/

theorem key_of_ofKey? {key : String} {verb : Verb} (h : Verb.ofKey? key = some verb) :
    verb.key = key := by
  have hkey := List.find?_some h
  simpa using hkey

theorem namesResource_of_ofKey? {key : String} {verb : Verb} (h : Verb.ofKey? key = some verb) :
    namesResource key = false := by
  rw [← key_of_ofKey? h]
  cases verb <;> decide

theorem skipped?_of_ofKey? {key : String} {verb : Verb} (h : Verb.ofKey? key = some verb)
    (uri : String) : skipped? uri key = none := by
  have hkey : key ∉ unsupportedMethods := by
    rw [← key_of_ofKey? h]
    cases verb <;> decide
  exact if_neg hkey

/-- **The members of a resource mirror its entries.** -/
def MembersMirror (c : Conventions) (entries : List (Value × Value)) : Prop :=
  ∀ (path : List String) {uri : String} {methods : List Method} {children : List Resource}
    {warned : List String}, (membersOf c uri entries).Gives (methods, children) warned →
    methods.map Method.verb = entries.filterMap verbKey?
      ∧ ForestMirrors (path ++ [uri]) entries children warned

theorem membersMirror_nil (c : Conventions) : MembersMirror c [] := by
  intro path uri methods children warned h
  obtain ⟨hmembers, rfl⟩ := gives_pure_iff.1 h
  obtain ⟨rfl, rfl⟩ := Prod.mk.inj hmembers
  exact ⟨rfl, forestMirrors_nil _⟩

/-- A resource is loaded from the members of its value. -/
theorem exists_of_resourceOf {c : Conventions} {uri : String} {value : Value} {resource : Resource}
    {warned : List String} (h : (resourceOf c uri value).Gives resource warned) :
    ∃ methods children, resource = .atUri uri methods children
      ∧ (membersOf c uri (membersIn value)).Gives (methods, children) warned := by
  rw [resourceOf_eq, gives_bind_iff] at h
  obtain ⟨⟨methods, children⟩, before, after, hmembers, hresource, rfl⟩ := h
  obtain ⟨rfl, rfl⟩ := gives_pure_iff.1 hresource
  exact ⟨methods, children, rfl, by rwa [List.append_nil]⟩

theorem verb_of_methodOf {c : Conventions} {verb : Verb} {value : Value} {method : Method}
    (h : (methodOf c verb value).result = .ok method) : method.verb = verb := by
  simp only [methodOf] at h
  split at h
  · obtain rfl := Except.ok.inj h
    rfl
  · rw [result_bind, bind_eq_ok_iff] at h
    obtain ⟨body, -, h⟩ := h
    split at h
    all_goals
      rw [result_bind, bind_eq_ok_iff] at h
      obtain ⟨responses, -, hmethod⟩ := h
      obtain rfl := Except.ok.inj hmethod
      rfl

/-- **What one entry of a resource adds** to what the entries behind it give. -/
inductive Adds (c : Conventions) (uri : String) (key value : Value)
    (rest : List (Value × Value)) : List Method → List Resource → List String → Prop
  | nothing {methods : List Method} {children : List Resource} {warned : List String} :
    keyText? key = none →
    (membersOf c uri rest).Gives (methods, children) warned →
    Adds c uri key value rest methods children warned
  | child {text : String} {child : Resource} {methods : List Method} {children : List Resource}
      {below warned : List String} :
    keyText? key = some text → namesResource text = true →
    (resourceOf c text value).Gives child below →
    (membersOf c uri rest).Gives (methods, children) warned →
    Adds c uri key value rest methods (child :: children) (below ++ warned)
  | method {text : String} {method : Method} {methods : List Method} {children : List Resource}
      {warned : List String} :
    keyText? key = some text → Verb.ofKey? text = some method.verb →
    (membersOf c uri rest).Gives (methods, children) warned →
    Adds c uri key value rest (method :: methods) children warned
  | other {text : String} {methods : List Method} {children : List Resource}
      {warned : List String} :
    keyText? key = some text → namesResource text = false → Verb.ofKey? text = none →
    (membersOf c uri rest).Gives (methods, children) warned →
    Adds c uri key value rest methods children ((skipped? uri text).toList ++ warned)

theorem adds_of_membersOf {c : Conventions} {uri : String} {key value : Value}
    {rest : List (Value × Value)} {methods : List Method} {children : List Resource}
    {warned : List String}
    (h : (membersOf c uri ((key, value) :: rest)).Gives (methods, children) warned) :
    Adds c uri key value rest methods children warned := by
  rw [membersOf] at h
  cases hkey : keyText? key with
  | none => exact .nothing hkey (by simpa only [hkey] using h)
  | some text =>
    simp only [hkey] at h
    split at h
    · rename_i hnames
      obtain ⟨child, below, _, hchild, hrest, rfl⟩ := gives_bind_iff.1 h
      obtain ⟨⟨_, others⟩, after, _, hmembers, hpair, rfl⟩ := gives_bind_iff.1 hrest
      obtain ⟨heq, rfl⟩ := gives_pure_iff.1 hpair
      obtain ⟨rfl, rfl⟩ := Prod.mk.inj heq
      rw [List.append_nil]
      exact .child hkey hnames hchild hmembers
    · rename_i hnames
      split at h
      · rename_i verb hverb
        obtain ⟨method, hmethod, hrest⟩ := (quiet_methodOf c verb value).gives_bind_iff.1 h
        obtain ⟨⟨others, _⟩, after, _, hmembers, hpair, rfl⟩ := gives_bind_iff.1 hrest
        obtain ⟨heq, rfl⟩ := gives_pure_iff.1 hpair
        obtain ⟨rfl, rfl⟩ := Prod.mk.inj heq
        rw [List.append_nil]
        exact .method hkey (by rw [verb_of_methodOf hmethod, hverb]) hmembers
      · rename_i hverb
        obtain ⟨after, hmembers, rfl⟩ : ∃ after,
            (membersOf c uri rest).Gives (methods, children) after
              ∧ warned = (skipped? uri text).toList ++ after := by
          split at h
          · rename_i hskipped
            obtain ⟨_, _, after, hwarn, hmembers, rfl⟩ := gives_bind_iff.1 h
            obtain rfl := gives_warn_iff.1 hwarn
            exact ⟨after, hmembers, by rw [skipped?, if_pos hskipped]; rfl⟩
          · rename_i hskipped
            exact ⟨warned, h, by rw [skipped?, if_neg hskipped]; rfl⟩
        exact .other hkey (Bool.eq_false_iff.2 hnames) hverb hmembers

theorem membersMirror_cons {c : Conventions} {key value : Value} {rest : List (Value × Value)}
    (hvalue : MembersMirror c (membersIn value)) (hrest : MembersMirror c rest) :
    MembersMirror c ((key, value) :: rest) := by
  intro path uri methods children warned h
  cases adds_of_membersOf h with
  | nothing hkey hmembers =>
    obtain ⟨hverbs, hmirror⟩ := hrest path hmembers
    exact ⟨by simpa [verbKey?, hkey] using hverbs, hmirror.cons_of_none hkey⟩
  | @child text _ _ _ _ _ hkey hnames hchild hmembers =>
    obtain ⟨methods', children', rfl, hbelow⟩ := exists_of_resourceOf hchild
    obtain ⟨hverbs, hmirror⟩ := hrest path hmembers
    obtain ⟨hverbs', hmirror'⟩ := hvalue (path ++ [uri]) hbelow
    have hnoVerb : verbKey? (key, value) = none := by
      rw [verbKey?, hkey, Option.bind_some, Option.eq_none_iff_forall_ne_some]
      intro verb hverb
      rw [namesResource_of_ofKey? hverb] at hnames
      contradiction
    rw [List.filterMap_cons_none hnoVerb]
    exact ⟨hverbs, hmirror'.cons_of_resource hkey hnames hverbs' hmirror⟩
  | @method text method _ _ _ hkey hverb hmembers =>
    obtain ⟨hverbs, hmirror⟩ := hrest path hmembers
    have hmore : ForestMirrors (path ++ [uri]) ((key, value) :: rest) children _ :=
      hmirror.cons_of_other hkey (namesResource_of_ofKey? hverb)
    rw [warning?_concat, skipped?_of_ofKey? hverb] at hmore
    have hsome : verbKey? (key, value) = some method.verb := by
      rw [verbKey?, hkey, Option.bind_some, hverb]
    rw [List.filterMap_cons_some hsome, List.map_cons, hverbs]
    exact ⟨rfl, hmore⟩
  | @other text _ _ _ hkey hnames hverb hmembers =>
    obtain ⟨hverbs, hmirror⟩ := hrest path hmembers
    have hnoVerb : verbKey? (key, value) = none := by
      rw [verbKey?, hkey, Option.bind_some, hverb]
    rw [List.filterMap_cons_none hnoVerb, ← warning?_concat path]
    exact ⟨hverbs, hmirror.cons_of_other hkey hnames⟩

mutual

theorem membersMirror (c : Conventions) : ∀ entries : List (Value × Value), MembersMirror c entries
  | [] => membersMirror_nil c
  | (_, value) :: rest =>
    membersMirror_cons (membersMirror_membersIn c value) (membersMirror c rest)

theorem membersMirror_membersIn (c : Conventions) :
    ∀ value : Value, MembersMirror c (membersIn value)
  | .mapping entries => membersMirror c entries
  | .tagged _ value => membersMirror_membersIn c value
  | .null | .bool _ | .number _ | .string _ | .sequence _ => membersMirror_nil c

end

/-- **The resources of a document mirror its root.** -/
theorem forestMirrors_of_resourcesOf {c : Conventions} {root : List (Value × Value)}
    {resources : List Resource} {warned : List String}
    (h : (resourcesOf c root).Gives resources warned) : ForestMirrors [] root resources warned := by
  induction root generalizing resources warned with
  | nil =>
    obtain ⟨rfl, rfl⟩ := gives_pure_iff.1 h
    exact forestMirrors_nil []
  | cons entry rest ih =>
    obtain ⟨key, value⟩ := entry
    rw [resourcesOf] at h
    cases hkey : keyText? key with
    | none => exact (ih (by simpa only [hkey] using h)).cons_of_none hkey
    | some text =>
      simp only [hkey] at h
      split at h
      · rename_i hnames
        obtain ⟨resource, below, _, hresource, hrest, rfl⟩ := gives_bind_iff.1 h
        obtain ⟨others, after, _, hothers, hlist, rfl⟩ := gives_bind_iff.1 hrest
        obtain ⟨rfl, rfl⟩ := gives_pure_iff.1 hlist
        obtain ⟨methods, children, rfl, hmembers⟩ := exists_of_resourceOf hresource
        obtain ⟨hverbs, hbelow⟩ := membersMirror_membersIn c value [] hmembers
        rw [List.append_nil]
        exact hbelow.cons_of_resource hkey hnames hverbs (ih hothers)
      · rename_i hnames
        exact (ih h).cons_of_other hkey (Bool.eq_false_iff.2 hnames)

/-! ## Keys that differ in their tags alone

A mapping has no key twice, but a key under a tag is not the key without it, and both are read as
the same text.  Only such keys can give a method or a child twice. -/

/-- The tags around a value, the outermost first. -/
def tagsOf : Value → List String
  | .tagged name value => name :: tagsOf value
  | _ => []

/-- **The keys that are read alike have the same tags.** -/
def TagsAgree {α : Type} (read : Value × Value → Option α) (entries : List (Value × Value)) :
    Prop :=
  ∀ entry ∈ entries, ∀ other ∈ entries, ∀ x, read entry = some x → read other = some x →
    tagsOf entry.1 = tagsOf other.1

/-- Keys with the same text and the same tags are the same. -/
theorem sameKey_of_tagsOf_eq : ∀ {key other : Value} {text : String},
    keyText? key = some text → keyText? other = some text → tagsOf key = tagsOf other →
    key.sameKey other = true
  | .string _, .string _, _, hkey, hother, _ => by
    obtain rfl := Option.some.inj hkey
    obtain rfl := Option.some.inj hother
    simp [Value.sameKey]
  | .tagged name key, .tagged name' other, text, hkey, hother, htags => by
    obtain ⟨rfl, hinner⟩ := List.cons.inj htags
    simp [Value.sameKey, sameKey_of_tagsOf_eq (show keyText? key = some text from hkey)
      (show keyText? other = some text from hother) hinner]

/-- **What the keys of a mapping give is given once** just if keys that are read alike have the same
tags. -/
theorem nodup_filterMap_iff {α : Type} {read : Value × Value → Option α}
    (hread : ∀ entry other x, read entry = some x → read other = some x →
      ∃ text, keyText? entry.1 = some text ∧ keyText? other.1 = some text)
    {entries : List (Value × Value)} (h : (Value.mapping entries).WellFormed) :
    (entries.filterMap read).Nodup ↔ TagsAgree read entries := by
  obtain _ | _ | _ | _ | _ | ⟨hdistinct, -, -⟩ := h
  rw [List.Nodup, List.pairwise_filterMap]
  constructor
  · intro hpairwise entry hentry other hother x hx hx'
    have : Std.Symm fun entry other =>
        ∀ x, read entry = some x → ∀ y, read other = some y → x ≠ y :=
      ⟨fun _ _ hne x hx y hy => (hne y hy x hx).symm⟩
    by_contra htags
    have hne : entry ≠ other := fun heq => htags (by rw [heq])
    exact hpairwise.forall hentry hother hne x hx x hx' rfl
  · intro hagree
    refine hdistinct.imp_of_mem ?_
    intro entry other hentry hother hsame x hx y hy hxy
    obtain rfl := hxy
    obtain ⟨text, htext, htext'⟩ := hread entry other x hx hy
    rw [sameKey_of_tagsOf_eq htext htext' (hagree entry hentry other hother x hx hy)] at hsame
    contradiction

theorem nodup_verbs_iff {entries : List (Value × Value)} (h : (Value.mapping entries).WellFormed) :
    (entries.filterMap verbKey?).Nodup ↔ TagsAgree verbKey? entries := by
  refine nodup_filterMap_iff (fun entry other verb hentry hother => ?_) h
  obtain ⟨text, htext, hverb⟩ := Option.bind_eq_some_iff.1 hentry
  obtain ⟨text', htext', hverb'⟩ := Option.bind_eq_some_iff.1 hother
  obtain rfl : text = text' := (key_of_ofKey? hverb).symm.trans (key_of_ofKey? hverb')
  exact ⟨text, htext, htext'⟩

theorem nodup_uris_iff {entries : List (Value × Value)} (h : (Value.mapping entries).WellFormed) :
    (entries.filterMap resourceKey?).Nodup ↔ TagsAgree resourceKey? entries := by
  refine nodup_filterMap_iff (fun entry other uri hentry hother => ?_) h
  exact ⟨uri, (Option.filter_eq_some_iff.1 hentry).1, (Option.filter_eq_some_iff.1 hother).1⟩

theorem wellFormed_mapping_nil : (Value.mapping []).WellFormed := .mapping .nil (by simp) (by simp)

theorem wellFormed_membersIn {value : Value} (h : value.WellFormed) :
    (Value.mapping (membersIn value)).WellFormed := by
  induction value using induction_on_tags with
  | tagged name value ih =>
    cases h with
    | tagged _ hinner => exact ih hinner
  | plain value hplain =>
    cases value with
    | mapping entries => exact h
    | tagged name inner => exact absurd rfl (hplain name inner)
    | null | bool | number | string | sequence => exact wellFormed_mapping_nil

mutual

theorem wellFormed_of_mem_readingIn (path : List String) :
    ∀ (entries : List (Value × Value)), (∀ entry ∈ entries, entry.2.WellFormed) →
      ∀ place ∈ readingIn path entries, place.value.WellFormed
  | [], _, place, hplace => nomatch hplace
  | (key, value) :: rest, h, place, hplace => by
    obtain ⟨hvalue, hrest⟩ := List.forall_mem_cons.1 h
    have hbehind := wellFormed_of_mem_readingIn path rest hrest place
    rw [readingIn] at hplace
    split at hplace
    · exact hbehind hplace
    · rename_i text _
      obtain rfl | hmore := List.mem_cons.1 hplace
      · exact hvalue
      · obtain hbelow | hlater := List.mem_append.1 hmore
        · split at hbelow
          · exact wellFormed_of_mem_reading (path ++ [text]) value hvalue place hbelow
          · contradiction
        · exact hbehind hlater

theorem wellFormed_of_mem_reading (path : List String) :
    ∀ (value : Value), value.WellFormed → ∀ place ∈ reading path value, place.value.WellFormed
  | .mapping entries, .mapping _ _ hvalues, place, hplace =>
    wellFormed_of_mem_readingIn path entries hvalues place (by rwa [reading] at hplace)
  | .tagged _ value, .tagged _ h, place, hplace =>
    wellFormed_of_mem_reading path value h place (by rwa [reading] at hplace)
  | .null, _, _, h | .bool _, _, _, h | .number _, _, _, h | .string _, _, _, h
  | .sequence _, _, _, h => nomatch h

end

/-- **What the keys of a resource can repeat**: a method, or a child, just if two of its keys differ
in their tags alone. -/
structure RepeatsByTag (resource : Resource) (entries : List (Value × Value)) : Prop where
  verbs : (resource.methods.map Method.verb).Nodup ↔ TagsAgree verbKey? entries
  children : (resource.children.map Resource.uri).Nodup ↔ TagsAgree resourceKey? entries

theorem NodeMirrors.repeatsByTag {node : List String × Resource} {place : Place}
    (h : NodeMirrors node place) (hplace : place.value.WellFormed) :
    RepeatsByTag node.2 (membersIn place.value) where
  verbs := by rw [h.verbs, nodup_verbs_iff (wellFormed_membersIn hplace)]
  children := by rw [h.children, nodup_uris_iff (wellFormed_membersIn hplace)]

end Document

open Document Logged

/-- **An API mirrors the root of its document.** -/
structure Api.Mirrors (api : Api) (root : List (Value × Value)) : Prop where
  /-- The nodes, parents first, are the keys that name resources, read depth first. -/
  paths : (Resource.nodesIn [] api.resources).map Prod.fst
    = ((readingIn [] root).filter Place.isResource).map Place.fullPath
  nodes : List.Forall₂
    (fun node place => NodeMirrors node place ∧ RepeatsByTag node.2 (membersIn place.value))
    (Resource.nodesIn [] api.resources) ((readingIn [] root).filter Place.isResource)
  uris : api.resources.map Resource.uri = root.filterMap resourceKey?
  uris_nodup_iff : (api.resources.map Resource.uri).Nodup ↔ TagsAgree resourceKey? root

theorem Document.ForestMirrors.mirrors {api : Api} {root : List (Value × Value)}
    {warned : List String} (h : ForestMirrors [] root api.resources warned)
    (hroot : (Value.mapping root).WellFormed) :
    api.Mirrors root where
  paths := by
    rw [← List.forall₂_eq_eq_eq, List.forall₂_map_left_iff, List.forall₂_map_right_iff]
    exact h.nodes.imp fun _ _ hnode => hnode.path
  nodes := by
    obtain _ | _ | _ | _ | _ | ⟨-, -, hvalues⟩ := hroot
    have hplaces : ∀ place ∈ (readingIn [] root).filter Place.isResource, place.value.WellFormed :=
      fun place hplace =>
        wellFormed_of_mem_readingIn [] root hvalues place (List.mem_of_mem_filter hplace)
    have hboth := (List.forall₂_and_left _ _).2 ⟨hplaces, h.nodes.flip⟩
    exact (hboth.imp fun _ _ hnode => ⟨hnode.2, hnode.2.repeatsByTag hnode.1⟩).flip
  uris := h.uris
  uris_nodup_iff := by rw [h.uris, nodup_uris_iff hroot]

namespace Document

theorem forestMirrors_of_ofRoot {origin : Origin} {root : List (Value × Value)} {api : Api}
    {warned : List String} (h : (Api.ofRoot origin root).Gives api warned) :
    ForestMirrors [] root api.resources warned := by
  rw [Api.ofRoot, (quiet_namedSchemas ..).gives_bind_iff] at h
  obtain ⟨named, -, hread⟩ := h
  obtain ⟨_, -, hread⟩ := (quiet_debug _).gives_bind_iff.1 hread
  obtain ⟨resources, before, after, hresources, hbuild, rfl⟩ := gives_bind_iff.1 hread
  obtain ⟨_, -, hbuild⟩ := (quiet_debug _).gives_bind_iff.1 hbuild
  obtain ⟨rfl, rfl⟩ := gives_pure_iff.1 hbuild
  rw [List.append_nil]
  exact forestMirrors_of_resourcesOf hresources

/-- **A text that is loaded has a root**, and its API mirrors it. -/
theorem forestMirrors_of_ofText {origin : Origin} {text : String} {api : Api} {warned : List String}
    (h : (Api.ofText origin text).Gives api warned) :
    ∃ root, Value.parse text = .ok (.mapping root)
      ∧ ForestMirrors [] root api.resources warned := by
  obtain ⟨value, hvalue, hroot⟩ := (quiet_of _).gives_bind_iff.1 h
  obtain ⟨root, hroot, hread⟩ := (quiet_of _).gives_bind_iff.1 hroot
  exact ⟨root, parse_of_rootEntries hvalue hroot, forestMirrors_of_ofRoot hread⟩

end Document

/-! ## Loaded APIs are rooted -/

namespace Resource

mutual

theorem rooted_of_nodes (path : List String) : ∀ resource : Resource,
    (∀ node ∈ nodes path resource,
      StartsWithSlash node.2.uri ∧ node.2.segments = segmentsOf node.2.uri) → resource.Rooted
  | .mk uri segments methods children, h => by
    rw [nodes] at h
    obtain ⟨⟨hslash, hsegments⟩, hbelow⟩ := List.forall_mem_cons.1 h
    obtain rfl : segments = segmentsOf uri := hsegments
    exact .atUri hslash (rooted_of_nodesIn (path ++ [uri]) children hbelow)

theorem rooted_of_nodesIn (path : List String) : ∀ resources : List Resource,
    (∀ node ∈ nodesIn path resources,
      StartsWithSlash node.2.uri ∧ node.2.segments = segmentsOf node.2.uri) →
    ∀ resource ∈ resources, resource.Rooted
  | [], _ => by simp
  | resource :: rest, h => by
    rw [nodesIn] at h
    obtain ⟨hfirst, hrest⟩ := List.forall_mem_append.1 h
    exact List.forall_mem_cons.2
      ⟨rooted_of_nodes path resource hfirst, rooted_of_nodesIn path rest hrest⟩

end

end Resource

/-- **An API that was loaded**, from a text or from a file. -/
inductive Api.Loaded : Api → Prop
  | ofText {origin : Origin} {text : String} {api : Api} :
    (Api.ofText origin text).result = .ok api → Loaded api
  | ofFile {files : FileSystem} {path : String} {api : Api} :
    (Api.ofFile files path).result = .ok api → Loaded api

namespace Api.Loaded

variable {api : Api}

theorem exists_ofText (h : api.Loaded) :
    ∃ origin text, (Api.ofText origin text).result = .ok api := by
  cases h with
  | ofText htext => exact ⟨_, _, htext⟩
  | ofFile hfile =>
    simp only [Api.ofFile, result_bind, result_debug, ok_bind, bind_eq_ok_iff] at hfile
    obtain ⟨text, -, htext⟩ := hfile
    exact ⟨_, text, htext⟩

theorem rooted (h : api.Loaded) : ∀ resource ∈ api.resources, resource.Rooted := by
  obtain ⟨origin, text, htext⟩ := h.exists_ofText
  obtain ⟨root, -, hmirror⟩ := forestMirrors_of_ofText ⟨htext, rfl⟩
  have hnodes := hmirror.nodes.imp fun _ _ hnode =>
    And.intro (And.intro hnode.slash hnode.segments) hnode
  exact Resource.rooted_of_nodesIn [] api.resources ((List.forall₂_and_left _ _).1 hnodes).1

/-- **The segments of an operation are those of its path.** -/
theorem segments_eq (h : api.Loaded) {operation : Operation}
    (hmem : operation ∈ api.operations) : operation.segments = segmentsOf operation.uri := by
  obtain ⟨resource, hresource, hoperation⟩ := Resource.mem_operationsIn.1 hmem
  exact Resource.segments_of_mem_operations (h.rooted resource hresource) hoperation

end Api.Loaded

/-! ## Loading -/

/-- **Loading loses and invents nothing.**  The nodes of the API are the keys that name resources,
each with the methods and children that its own keys give it, and the warnings are about the keys of
methods that give no code, one for each. -/
theorem load_mirrors_document {origin : Origin} {text : String} {api : Api}
    (h : (Api.ofText origin text).result = .ok api) :
    ∃ root, Value.parse text = .ok (.mapping root) ∧ api.Mirrors root
      ∧ warnings (Api.ofText origin text).log = (readingIn [] root).filterMap Place.warning? := by
  obtain ⟨root, hparse, hmirror⟩ := forestMirrors_of_ofText ⟨h, rfl⟩
  exact ⟨root, hparse, hmirror.mirrors (Value.wellFormed_of_parse hparse), hmirror.warned⟩

/-- Books that have pages, under a tag, and authors about which nothing is said. -/
def shelfText : String :=
  "title: Shelf\n/books: !shelf\n  get:\n  head:\n  /page: \x7btrace: , delete: \x7d\n  post:\n"
    ++ "/authors:\n"

/-- …the same as the root of a document. -/
def shelfRoot : List (Value × Value) :=
  [(.string "title", .string "Shelf"),
    (.string "/books", .tagged "shelf" (.mapping [(.string "get", .null), (.string "head", .null),
      (.string "/page", .mapping [(.string "trace", .null), (.string "delete", .null)]),
      (.string "post", .null)])),
    (.string "/authors", .null)]

/-- Books come before their pages, and authors last. -/
theorem load_mirrors_document_shelf : ∃ api, (Api.ofText ⟨{}, ""⟩ shelfText).result = .ok api
    ∧ (Resource.nodesIn [] api.resources).map Prod.fst
      = [["/books"], ["/books", "/page"], ["/authors"]]
    ∧ (api.resources.map Resource.uri).Nodup
    ∧ warnings (Api.ofText ⟨{}, ""⟩ shelfText).log
      = ["Skipping unsupported method `head` on resource /books",
        "Skipping unsupported method `trace` on resource /page"] := by
  have htext : Value.parse shelfText = .ok (.mapping shelfRoot) := by decide +kernel
  have hroot : (Api.ofRoot ⟨{}, ""⟩ shelfRoot).result.toOption.map Api.title
      = some (some "Shelf") := by
    decide +kernel
  obtain ⟨api, hload, -⟩ := exists_of_ofRoot htext Api.title hroot
  obtain ⟨root, hparse, hmirror, hwarned⟩ := load_mirrors_document hload
  obtain rfl : shelfRoot = root := Value.mapping.inj (Except.ok.inj (htext.symm.trans hparse))
  refine ⟨api, hload, ?_, ?_, ?_⟩
  · rw [hmirror.paths]
    decide +kernel
  · rw [hmirror.uris]
    decide +kernel
  · rw [hwarned]
    decide +kernel

/-- Books, which have a method with a tag and without, and books again with a tag. -/
def oldBooksText : String := "/books: \x7bget: , !old get: \x7d\n!old /books: \n"

/-- …the same as the root of a document. -/
def oldBooksRoot : List (Value × Value) :=
  [(.string "/books", .mapping [(.string "get", .null), (.tagged "old" (.string "get"), .null)]),
    (.tagged "old" (.string "/books"), .null)]

/-- **A key with a tag and without is read twice**: a method `get`, and the books themselves. -/
theorem load_repeats_tagged_keys :
    ∃ api, (Api.ofText ⟨{}, ""⟩ oldBooksText).result = .ok api
      ∧ api.resources.map Resource.uri = ["/books", "/books"]
      ∧ api.resources.map (fun resource => resource.methods.map Method.verb)
        = [[.get, .get], []] := by
  have htext : Value.parse oldBooksText = .ok (.mapping oldBooksRoot) := by decide +kernel
  have hroot : (Api.ofRoot ⟨{}, ""⟩ oldBooksRoot).result.toOption.map (fun api =>
      (api.resources.map Resource.uri,
        api.resources.map fun resource => resource.methods.map Method.verb))
      = some (["/books", "/books"], [[.get, .get], []]) := by
    decide +kernel
  obtain ⟨api, hload, hview⟩ := exists_of_ofRoot htext _ hroot
  obtain ⟨huris, hverbs⟩ := Prod.mk.inj hview
  exact ⟨api, hload, huris, hverbs⟩

end RamlExpress
