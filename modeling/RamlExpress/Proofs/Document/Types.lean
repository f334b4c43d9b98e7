import Mathlib.Logic.Function.Basic
import RamlExpress.Proofs.Document.Reference
import RamlExpress.Proofs.Yaml.Json
import RamlExpress.Proofs.Yaml.Value

/-!
# Proofs/Document/Types — in which order types are declared

A declaration sees the names declared before it, and no others.  So two declarations may change
places unless one stands for the name of the other, and the order of all of them does not matter as
long as every such name stays on its side.

* `Document.standFor_swap` — two declarations change places.
* `Document.standFor_perm` — all of them do.
* `load_types_perm` — a document whose types are declared in another order.
* `load_types_swap_library` — …and one in which a name comes to stand behind its use.
-/

namespace RamlExpress

open Yaml (Value)

namespace Document

/-! ## Declarations, one after the other -/

/-- The declarations in a mapping, under their names. -/
def declarations (entries : List (Value × Value)) : List (String × Value) :=
  entries.filterMap fun entry => (keyText? entry.1).map (·, entry.2)

/-- **Adds the schema that a declaration has**, given those named before. -/
def declare (origin : Origin) (named : NamedSchemas) (declaration : String × Value) :
    Except Failure NamedSchemas := do
  match ← (origin.schemaOf named declaration.2).result with
  | none => return named
  | some schema => return named.insert declaration.1 schema

theorem result_addNamed (origin : Origin) (named : NamedSchemas) (entries : List (Value × Value)) :
    (addNamed origin named entries).result
      = (declarations entries).foldlM (declare origin) named := by
  induction entries generalizing named with
  | nil => rfl
  | cons entry rest ih =>
    obtain ⟨key, value⟩ := entry
    simp only [addNamed, declarations, List.filterMap_cons]
    cases keyText? key with
    | none => exact ih named
    | some name =>
      simp only [Logged.result_bind, Option.map_some, List.foldlM_cons, declare, bind_assoc]
      cases (origin.schemaOf named value).result with
      | error failure => rfl
      | ok schema =>
        cases schema with
        | none => exact ih named
        | some schema => exact ih (named.insert name schema)

/-! ## What names stand for

Two orders of declarations leave the names in two orders and may fail in two ways; what counts is
whether they fail, and what each name stands for. -/

/-- **What each name stands for**, unless the declarations failed. -/
def standFor (result : Except Failure NamedSchemas) : Option (String → Option String) :=
  result.toOption.map OrderedMap.get?

theorem get?_insert_eq_update (named : NamedSchemas) (name schema : String) :
    (named.insert name schema).get? = Function.update named.get? name (some schema) := by
  funext other
  rw [OrderedMap.get?_insert, Function.update_apply]

/-- The same is stood for if both failed, or if neither did and the names stand for the same. -/
theorem failed_or_alike {result result' : Except Failure NamedSchemas}
    (h : standFor result = standFor result') :
    (∃ failure failure', result = .error failure ∧ result' = .error failure')
      ∨ ∃ named named', result = .ok named ∧ result' = .ok named' ∧ named.get? = named'.get? := by
  cases result with
  | error failure =>
    cases result' with
    | error failure' => exact .inl ⟨failure, failure', rfl, rfl⟩
    | ok named' => contradiction
  | ok named =>
    cases result' with
    | error failure' => contradiction
    | ok named' => exact .inr ⟨named, named', rfl, rfl, Option.some.inj h⟩

theorem standFor_bind {result result' : Except Failure NamedSchemas}
    {next next' : NamedSchemas → Except Failure NamedSchemas}
    (h : standFor result = standFor result')
    (hnext : ∀ named named', named.get? = named'.get? →
      standFor (next named) = standFor (next' named')) :
    standFor (result >>= next) = standFor (result' >>= next') := by
  obtain ⟨failure, failure', rfl, rfl⟩ | ⟨named, named', rfl, rfl, hget⟩ := failed_or_alike h
  · rfl
  · exact hnext named named' hget

variable (origin : Origin)

theorem standFor_declare {named named' : NamedSchemas} (h : named.get? = named'.get?)
    (declaration : String × Value) :
    standFor (declare origin named declaration) = standFor (declare origin named' declaration) := by
  simp only [declare, origin.schemaOf_congr declaration.2 h]
  cases (origin.schemaOf named' declaration.2).result with
  | error failure => rfl
  | ok schema =>
    cases schema with
    | none => simp [standFor, Except.toOption, pure, Except.pure, h]
    | some schema => simp [standFor, Except.toOption, pure, Except.pure, get?_insert_eq_update, h]

/-- What was named before counts by what it stands for. -/
theorem standFor_foldlM {named named' : NamedSchemas} (h : named.get? = named'.get?)
    (entries : List (String × Value)) :
    standFor (entries.foldlM (declare origin) named)
      = standFor (entries.foldlM (declare origin) named') := by
  induction entries generalizing named named' with
  | nil => simp [standFor, Except.toOption, pure, Except.pure, h]
  | cons entry rest ih =>
    rw [List.foldlM_cons, List.foldlM_cons]
    exact standFor_bind (standFor_declare origin h entry) fun _ _ => ih

variable {origin}

/-- Neither of two declarations stands for the name of the other. -/
structure Apart (origin : Origin) (x y : String × Value) : Prop where
  name_ne : x.1 ≠ y.1
  left : ¬origin.Names x.2 y.1
  right : ¬origin.Names y.2 x.1

/-- **Two declarations that are apart may change places.** -/
theorem standFor_swap {x y : String × Value} (h : Apart origin x y) (named : NamedSchemas) :
    standFor (declare origin named x >>= (declare origin · y))
      = standFor (declare origin named y >>= (declare origin · x)) := by
  have hx (schema : String) := Origin.schemaOf_insert h.left named schema
  have hy (schema : String) := Origin.schemaOf_insert h.right named schema
  unfold declare
  cases hfirst : (origin.schemaOf named x.2).result with
  | error failure =>
    cases hsecond : (origin.schemaOf named y.2).result with
    | error failure => rfl
    | ok schema => cases schema <;> simp [error_bind, hfirst, hx, standFor, Except.toOption]
  | ok schema =>
    cases hsecond : (origin.schemaOf named y.2).result with
    | error failure => cases schema <;> simp [error_bind, hsecond, hy, standFor, Except.toOption]
    | ok schema' =>
      cases schema <;> cases schema' <;> simp [hfirst, hsecond, hx, hy, standFor, Except.toOption,
        pure, Except.pure, get?_insert_eq_update, Function.update_comm h.name_ne]

/-- A declaration may come before others that it is apart from. -/
theorem standFor_middle {x : String × Value} {before : List (String × Value)}
    (h : ∀ y ∈ before, Apart origin x y) (after : List (String × Value)) (named : NamedSchemas) :
    standFor ((before ++ x :: after).foldlM (declare origin) named)
      = standFor ((x :: before ++ after).foldlM (declare origin) named) := by
  induction before generalizing named with
  | nil => rfl
  | cons y rest ih =>
    obtain ⟨hy, hrest⟩ := List.forall_mem_cons.1 h
    calc standFor ((y :: rest ++ x :: after).foldlM (declare origin) named)
        = standFor (declare origin named y >>= (x :: rest ++ after).foldlM (declare origin)) := by
          rw [List.cons_append, List.foldlM_cons]
          refine standFor_bind rfl fun named named' hnamed => ?_
          rw [ih hrest]
          exact standFor_foldlM origin hnamed _
      _ = standFor ((declare origin named y >>= (declare origin · x))
            >>= (rest ++ after).foldlM (declare origin)) := by
          rw [bind_assoc]
          rfl
      _ = standFor ((declare origin named x >>= (declare origin · y))
            >>= (rest ++ after).foldlM (declare origin)) :=
          standFor_bind (standFor_swap hy named).symm fun _ _ hnamed =>
            standFor_foldlM origin hnamed _
      _ = standFor ((x :: y :: rest ++ after).foldlM (declare origin) named) := by
          rw [bind_assoc]
          rfl

/-! ## Sides -/

/-- **Names stay on their sides**: each name that a declaration stands for is declared before it in
both lists or in neither. -/
def SameSides (origin : Origin) (entries others : List (String × Value)) : Prop :=
  ∀ entry ∈ entries, ∀ name, origin.Names entry.2 name →
    ([name, entry.1].Sublist (entries.map Prod.fst) ↔ [name, entry.1].Sublist (others.map Prod.fst))

/-- Of two names, a third one in their midst does not change which comes first. -/
theorem pair_sublist_middle {a b c : String} (ha : a ≠ c) (hb : b ≠ c) (front back : List String) :
    [a, b].Sublist (front ++ c :: back) ↔ [a, b].Sublist (front ++ back) := by
  constructor
  · intro h
    have hpair : [a, b].filter (· ≠ c) = [a, b] := by simp [ha, hb]
    have hfilter : (front ++ c :: back).filter (· ≠ c) = (front ++ back).filter (· ≠ c) := by
      rw [List.filter_append, List.filter_cons_of_neg (by simp), ← List.filter_append]
    rw [← hpair]
    exact (hfilter ▸ h.filter (· ≠ c)).trans List.filter_sublist
  · intro h
    exact h.trans ((List.Sublist.refl front).append (List.sublist_cons_self c back))

/-- Of two names that do not come again, only one comes first. -/
theorem pair_sublist_asymm {a b : String} {names : List String} (hnames : names.Nodup)
    (h : [a, b].Sublist names) : ¬[b, a].Sublist names := by
  induction names with
  | nil => simp at h
  | cons name rest ih =>
    obtain ⟨hname, hrest⟩ := List.nodup_cons.1 hnames
    intro h'
    rcases List.sublist_cons_iff.1 h with hlater | ⟨tail, heq, htail⟩
    · rcases List.sublist_cons_iff.1 h' with hlater' | ⟨tail', heq', -⟩
      · exact ih hrest hlater hlater'
      · obtain ⟨rfl, -⟩ := List.cons.inj heq'
        exact hname (hlater.subset (by simp))
    · obtain ⟨rfl, rfl⟩ := List.cons.inj heq
      rcases List.sublist_cons_iff.1 h' with hlater' | ⟨tail', heq', htail'⟩
      · exact hname (hlater'.subset (by simp))
      · obtain ⟨rfl, rfl⟩ := List.cons.inj heq'
        exact hname (htail'.subset (by simp))

theorem pair_sublist_of_mem {a b : String} {front back : List String} (h : a ∈ front) :
    [a, b].Sublist (front ++ b :: back) :=
  (List.singleton_sublist.2 h).append (List.singleton_sublist.2 List.mem_cons_self)

section Sides

variable {x : String × Value} {rest before after : List (String × Value)}
  (hperm : rest.Perm (before ++ after)) (hnames : ((x :: rest).map Prod.fst).Nodup)
  (hsides : SameSides origin (x :: rest) (before ++ x :: after))

include hperm hnames hsides

/-- What a declaration is moved across is apart from it. -/
theorem SameSides.apart {y : String × Value} (hy : y ∈ before) : Apart origin x y := by
  have hnames' : ((before ++ x :: after).map Prod.fst).Nodup :=
    (((hperm.cons x).trans List.perm_middle.symm).map Prod.fst).nodup_iff.1 hnames
  have hrest : y ∈ rest := hperm.mem_iff.2 (List.mem_append_left _ hy)
  have hname : y.1 ∈ rest.map Prod.fst := List.mem_map_of_mem hrest
  have hbehind : [x.1, y.1].Sublist ((x :: rest).map Prod.fst) :=
    (List.singleton_sublist.2 hname).cons_cons x.1
  have hahead : [y.1, x.1].Sublist ((before ++ x :: after).map Prod.fst) := by
    rw [List.map_append, List.map_cons]
    exact pair_sublist_of_mem (List.mem_map_of_mem hy)
  refine ⟨fun heq => (List.nodup_cons.1 hnames).1 (heq ▸ hname), fun hleft => ?_, fun hright => ?_⟩
  · exact pair_sublist_asymm hnames hbehind
      ((hsides x List.mem_cons_self _ hleft).2 hahead)
  · exact pair_sublist_asymm hnames' hahead
      ((hsides y (List.mem_cons_of_mem _ hrest) _ hright).1 hbehind)

/-- Without it, all others stay on their sides. -/
theorem SameSides.tail : SameSides origin rest (before ++ after) := by
  intro entry hentry name hname
  have hsame := hsides entry (List.mem_cons_of_mem _ hentry) name hname
  have hnew := (List.nodup_cons.1 hnames).1
  have hnew' : x.1 ∉ (before ++ after).map Prod.fst := fun hmem =>
    hnew ((hperm.map Prod.fst).mem_iff.2 hmem)
  have hkey : entry.1 ≠ x.1 := fun heq => hnew (heq ▸ List.mem_map_of_mem hentry)
  by_cases heq : name = x.1
  · subst heq
    exact ⟨fun h => absurd (h.subset (by simp)) hnew, fun h => absurd (h.subset (by simp)) hnew'⟩
  · rw [List.map_append, List.map_cons, List.map_cons, pair_sublist_middle heq hkey] at hsame
    rw [List.map_append, ← hsame]
    exact (pair_sublist_middle heq hkey [] (rest.map Prod.fst)).symm

end Sides

/-- **The order of declarations does not matter** as long as every name that one of them stands for
stays on its side. -/
theorem standFor_perm {entries others : List (String × Value)} (hperm : entries.Perm others)
    (hnames : (entries.map Prod.fst).Nodup) (hsides : SameSides origin entries others)
    (named : NamedSchemas) :
    standFor (entries.foldlM (declare origin) named)
      = standFor (others.foldlM (declare origin) named) := by
  induction entries generalizing others named with
  | nil => rw [hperm.nil_eq]
  | cons x rest ih =>
    obtain ⟨before, after, rfl⟩ := List.append_of_mem (hperm.subset List.mem_cons_self)
    have hrest : rest.Perm (before ++ after) := (hperm.trans List.perm_middle).cons_inv
    have hapart : ∀ y ∈ before, Apart origin x y := fun y => hsides.apart hrest hnames
    rw [standFor_middle hapart, List.cons_append, List.foldlM_cons, List.foldlM_cons]
    refine standFor_bind rfl fun named named' hnamed => ?_
    rw [ih hrest (List.nodup_cons.1 hnames).2 (hsides.tail hrest hnames)]
    exact standFor_foldlM origin hnamed _

/-! ## Documents -/

/-- The root of a document with the given types, and with what stands before and behind them. -/
def rootWith (before after types : List (Value × Value)) : List (Value × Value) :=
  before ++ (.string "types", .mapping types) :: after

variable {before after : List (Value × Value)}

theorem lookup_rootWith_of_ne {name : String} (h : name ≠ "types")
    (types types' : List (Value × Value)) :
    Value.lookup name (rootWith before after types)
      = Value.lookup name (rootWith before after types') := by
  have hkey : (Value.string? (.string "types") == some name) = false := by
    simpa [Value.string?] using h.symm
  simp [rootWith, Value.lookup, List.find?_append, hkey]

/-- Types are no resources. -/
theorem resourcesOf_rootWith (c : Conventions) (types types' : List (Value × Value)) :
    (resourcesOf c (rootWith before after types)).result
      = (resourcesOf c (rootWith before after types')).result := by
  unfold rootWith
  induction before with
  | nil => rfl
  | cons entry rest ih =>
    simp only [List.cons_append, resourcesOf]
    cases keyText? entry.1 with
    | none => exact ih
    | some key =>
      simp only
      split
      · simp only [Logged.result_bind, ih]
      · exact ih

/-- The types of a document are declared behind its schemas. -/
theorem result_namedSchemas {types : List (Value × Value)}
    (h : (Value.mapping (rootWith before after types)).WellFormed) :
    (namedSchemas origin (rootWith before after types)).result = (do
      let named ← (declarationsIn (Value.lookup "schemas" (rootWith before after types))).foldlM
        (fun named entries => (addNamed origin named entries).result) .empty
      (declarations types).foldlM (declare origin) named) := by
  obtain _ | _ | _ | _ | _ | ⟨hdistinct, -, -⟩ := h
  have htypes : Value.lookup "types" (rootWith before after types) = some (.mapping types) :=
    Value.lookup_eq_some_of_mem hdistinct (by simp [rootWith])
  rw [namedSchemas, Logged.result_foldlM, List.foldlM_append, htypes]
  simp only [declarationsIn, List.foldlM_cons, List.foldlM_nil, bind_pure, result_addNamed]

theorem result_ofRoot (origin : Origin) (root : List (Value × Value)) :
    (Api.ofRoot origin root).result = (do
      let named ← (namedSchemas origin root).result
      let resources ← (resourcesOf { origin, named, mediaType := mediaTypeOf root } root).result
      return {
        title := (Value.lookup "title" root).bind Value.scalarText?
        version := (Value.lookup "version" root).bind Value.scalarText?
        resources }) := by
  simp only [Api.ofRoot, Logged.result_bind, Logged.result_pure]
  rfl

/-- **Named schemas that stand for the same make the same API** of a root that differs in its types
alone. -/
theorem ofRoot_eq_ok_iff {origin : Origin} {types types' : List (Value × Value)}
    (h : standFor (namedSchemas origin (rootWith before after types)).result
      = standFor (namedSchemas origin (rootWith before after types')).result) (api : Api) :
    (Api.ofRoot origin (rootWith before after types)).result = .ok api
      ↔ (Api.ofRoot origin (rootWith before after types')).result = .ok api := by
  have hlookup : ∀ {name : String}, name ≠ "types" →
      Value.lookup name (rootWith before after types)
        = Value.lookup name (rootWith before after types') :=
    fun hname => lookup_rootWith_of_ne hname types types'
  rw [result_ofRoot, result_ofRoot, mediaTypeOf, mediaTypeOf,
    hlookup (show "mediaType" ≠ "types" by decide), hlookup (show "title" ≠ "types" by decide),
    hlookup (show "version" ≠ "types" by decide)]
  obtain ⟨failure, failure', hfirst, hsecond⟩ | ⟨named, named', hfirst, hsecond, hget⟩ :=
    failed_or_alike h
  · rw [hfirst, hsecond]
    exact ⟨nofun, nofun⟩
  · rw [hfirst, hsecond]
    have halike (mediaType : String) :
        Alike { origin, named, mediaType } { origin, named := named', mediaType } :=
      ⟨rfl, hget, rfl⟩
    simp only [ok_bind, resourcesOf_congr (halike _), resourcesOf_rootWith _ types types']

theorem result_ofText {origin : Origin} {text : String} {root : List (Value × Value)}
    (h : Value.parse text = .ok (.mapping root)) :
    (Api.ofText origin text).result = (Api.ofRoot origin root).result := by
  simp [Api.ofText, Origin.parse, h, rootEntries]

/-- A loaded API, known by a view of what the root of its document describes. -/
theorem exists_of_ofRoot {α : Type} {origin : Origin} {text : String}
    {root : List (Value × Value)} (htext : Value.parse text = .ok (.mapping root))
    (view : Api → α) {seen : α}
    (h : (Api.ofRoot origin root).result.toOption.map view = some seen) :
    ∃ api, (Api.ofText origin text).result = .ok api ∧ view api = seen := by
  rw [result_ofText htext]
  exact exists_ok_of_toOption view h

/-- The root of a document is its value, a mapping without a tag. -/
theorem parse_of_rootEntries {text : String} {value : Value} {root : List (Value × Value)}
    (hvalue : Origin.parse text = .ok value) (hroot : rootEntries value = .ok root) :
    Value.parse text = .ok (.mapping root) := by
  have hmapping : value = .mapping root := by
    cases value with
    | mapping entries => rw [Except.ok.inj hroot]
    | null | bool | number | string | sequence | tagged => contradiction
  rw [Origin.parse] at hvalue
  split at hvalue
  · rename_i other hother
    rw [hother, Except.ok.inj hvalue, hmapping]
  · contradiction

/-- A text that describes an API has a root. -/
theorem exists_root_of_ofText {origin : Origin} {text : String} {api : Api}
    (h : (Api.ofText origin text).result = .ok api) :
    ∃ root, Value.parse text = .ok (.mapping root) := by
  simp only [Api.ofText, Logged.result_bind, Logged.result_of, bind_eq_ok_iff] at h
  obtain ⟨value, hvalue, root, hroot, -⟩ := h
  exact ⟨root, parse_of_rootEntries hvalue hroot⟩

end Document

open Document

/-- **The order of types does not matter**, but for names that are used before they are declared.
If a permutation of the types leaves every name that one of them stands for on its side, the two
documents describe the same API, or neither describes any. -/
theorem load_types_perm (origin : Origin) {text text' : String}
    {before after types types' : List (Value × Value)}
    (htext : Value.parse text = .ok (.mapping (rootWith before after types)))
    (htext' : Value.parse text' = .ok (.mapping (rootWith before after types')))
    (hperm : types.Perm types') (hnames : ((declarations types).map Prod.fst).Nodup)
    (hsides : SameSides origin (declarations types) (declarations types')) (api : Api) :
    (Api.ofText origin text).result = .ok api ↔ (Api.ofText origin text').result = .ok api := by
  rw [result_ofText htext, result_ofText htext']
  refine ofRoot_eq_ok_iff ?_ api
  rw [result_namedSchemas (Value.wellFormed_of_parse htext),
    result_namedSchemas (Value.wellFormed_of_parse htext'),
    lookup_rootWith_of_ne (show "schemas" ≠ "types" by decide) types types']
  have hdeclared : (declarations types).Perm (declarations types') := hperm.filterMap _
  refine standFor_bind rfl fun named named' hsame => ?_
  rw [standFor_perm hdeclared hnames hsides]
  exact standFor_foldlM origin hsame _

/-- A library with the given types, which takes novels. -/
def libraryText (types : List String) : String :=
  "types: \x7b" ++ ", ".intercalate types ++
    "\x7d\n/novels: \x7bpost: \x7bbody: \x7btype: Novel\x7d\x7d\x7d\n"

/-- …the same as the root of a document… -/
def libraryRoot (types : List (Value × Value)) : List (Value × Value) :=
  rootWith [] [(.string "/novels", .mapping [(.string "post", .mapping [(.string "body",
    .mapping [(.string "type", .string "Novel")])])])] types

/-- …and what it has to say about novels. -/
def libraryMethod (schema : Option String) : Method :=
  { verb := .post, body := [{ contentType := "application/json", schema }] }

def authorText : String := "Author: '\x7b\x7d'"

def authorType : Value × Value := (.string "Author", .string "\x7b\x7d")

def bookText : String := "Book: '\x7b\"type\":\"object\"\x7d'"

def bookType : Value × Value := (.string "Book", .string "\x7b\"type\":\"object\"\x7d")

def novelText : String := "Novel: Book"

/-- The only one of the three types that stands for another. -/
def novelType : Value × Value := (.string "Novel", .string "Book")

theorem sameSides_library : SameSides ⟨{}, ""⟩ (declarations [authorType, bookType, novelType])
    (declarations [bookType, novelType, authorType]) := by
  have hauthor (name : String) : ¬Origin.Names ⟨{}, ""⟩ authorType.2 name :=
    Origin.not_names_of_schemaOf_empty (by decide +kernel) name
  have hbook (name : String) : ¬Origin.Names ⟨{}, ""⟩ bookType.2 name :=
    Origin.not_names_of_schemaOf_empty (by decide +kernel) name
  have hnovel : Origin.Names ⟨{}, ""⟩ novelType.2 "Book" :=
    Origin.names_string (show Origin.looksLikeObject "Book".toList = false by decide +kernel)
  intro entry hentry name hname
  obtain rfl | rfl | rfl : entry = ("Author", authorType.2) ∨ entry = ("Book", bookType.2)
      ∨ entry = ("Novel", novelType.2) := by
    simpa [declarations, authorType, bookType, novelType, keyText?, Value.untagged, Value.string?]
      using hentry
  · exact absurd hname (hauthor name)
  · exact absurd hname (hbook name)
  · obtain rfl := hname.eq hnovel
    decide +kernel

theorem exists_load_library {text : String} {types : List (Value × Value)}
    (schema : Option String)
    (htext : Value.parse text = .ok (.mapping (libraryRoot types)))
    (h : ((Api.ofRoot ⟨{}, ""⟩ (libraryRoot types)).result.toOption.map fun api =>
      api.resources.flatMap Resource.methods) = some [libraryMethod schema]) :
    ∃ api, (Api.ofText ⟨{}, ""⟩ text).result = .ok api
      ∧ api.resources.flatMap Resource.methods = [libraryMethod schema] :=
  exists_of_ofRoot htext _ h

/-- Authors may come first or last. -/
theorem load_types_perm_library : ∃ api : Api,
    (Api.ofText ⟨{}, ""⟩ (libraryText [authorText, bookText, novelText])).result = .ok api
      ∧ (Api.ofText ⟨{}, ""⟩ (libraryText [bookText, novelText, authorText])).result = .ok api
      ∧ api.resources.flatMap Resource.methods
        = [libraryMethod (some "\x7b\"type\":\"object\"\x7d")] := by
  have hfirst : Value.parse (libraryText [authorText, bookText, novelText])
      = .ok (.mapping (libraryRoot [authorType, bookType, novelType])) := by
    decide +kernel
  have hlast : Value.parse (libraryText [bookText, novelText, authorText])
      = .ok (.mapping (libraryRoot [bookType, novelType, authorType])) := by
    decide +kernel
  have hperm : [authorType, bookType, novelType].Perm [bookType, novelType, authorType] := by
    decide +kernel
  have hnames : ((declarations [authorType, bookType, novelType]).map Prod.fst).Nodup := by
    decide +kernel
  obtain ⟨api, hload, hmethods⟩ := exists_load_library
    (some "\x7b\"type\":\"object\"\x7d") hfirst (by decide +kernel)
  have hiff := load_types_perm ⟨{}, ""⟩ hfirst hlast hperm hnames sameSides_library api
  exact ⟨api, hload, hiff.1 hload, hmethods⟩

/-- **…but novels may not come before the books that they stand for.** -/
theorem load_types_swap_library : ∃ api api' : Api,
    (Api.ofText ⟨{}, ""⟩ (libraryText [bookText, novelText])).result = .ok api
      ∧ (Api.ofText ⟨{}, ""⟩ (libraryText [novelText, bookText])).result = .ok api'
      ∧ api.resources.flatMap Resource.methods
        = [libraryMethod (some "\x7b\"type\":\"object\"\x7d")]
      ∧ api'.resources.flatMap Resource.methods = [libraryMethod none] := by
  have htext : Value.parse (libraryText [bookText, novelText])
      = .ok (.mapping (libraryRoot [bookType, novelType])) := by
    decide +kernel
  have htext' : Value.parse (libraryText [novelText, bookText])
      = .ok (.mapping (libraryRoot [novelType, bookType])) := by
    decide +kernel
  obtain ⟨api, hload, hmethods⟩ := exists_load_library
    (some "\x7b\"type\":\"object\"\x7d") htext (by decide +kernel)
  obtain ⟨api', hload', hmethods'⟩ := exists_load_library none htext' (by decide +kernel)
  exact ⟨api, api', hload, hload', hmethods, hmethods'⟩

end RamlExpress
