import RamlExpress.Proofs.Route
import RamlExpress.Proofs.Variables

/-!
# Proofs/Identifier — what stands where identifiers belong

    /orders/{id} ──▸ var Order = …    OrderModel.findOne({ id: req.params.id }, …)

The name of a model and the parameter of a filter are put into the program as they come.  In ASCII,
a model has an identifier for a name just if the segment it is called after is one: lowering,
respelling and capitalising exchange letters for letters.  A filter has one just if the last
parameter of the path is one.

* `Naming.isIdentifier_modelName_iff` — the name of a model against its segment.
* `Route.isIdentifier_parameter_iff` — the parameter of a filter against its path.
* `Operation.places_of_fragment?` — where a route has the two.
* `placed_identifiers_iff` — when a whole program has identifiers in all these places…
* `line_items_placed` — …and that `/line-items` gives none.
-/

namespace RamlExpress

open Yaml (Value)

/-! ## Identifiers -/

/-- A character that an identifier may have, in ASCII. -/
def isIdentifierPart (c : Char) : Bool := c.isAlphanum || c == '_' || c == '$'

/-- **An identifier**, in ASCII: letters, digits, underscores and dollars, no digit in front. -/
structure IsIdentifier (text : List Char) : Prop where
  ne_nil : text ≠ []
  parts : ∀ c ∈ text, isIdentifierPart c = true
  start : ∀ c ∈ text.head?, c.isDigit = false

theorem isIdentifier_iff {text : List Char} :
    IsIdentifier text ↔ text ≠ [] ∧ (∀ c ∈ text, isIdentifierPart c = true)
      ∧ ∀ c ∈ text.head?, c.isDigit = false :=
  ⟨fun h => ⟨h.ne_nil, h.parts, h.start⟩, fun ⟨hne, hparts, hstart⟩ => ⟨hne, hparts, hstart⟩⟩

instance (text : List Char) : Decidable (IsIdentifier text) :=
  have : Decidable (∀ c ∈ text, isIdentifierPart c = true) := List.decidableBAll _ _
  have : Decidable (∀ c ∈ text.head?, c.isDigit = false) := Option.decidableForallMem _
  decidable_of_iff' _ isIdentifier_iff

/-- **Characters with the same role** in identifiers. -/
def SameRole (c d : Char) : Prop :=
  isIdentifierPart c = isIdentifierPart d ∧ c.isDigit = d.isDigit

theorem parts_iff_of_sameRole {text other : List Char} (h : List.Forall₂ SameRole text other) :
    (∀ c ∈ text, isIdentifierPart c = true) ↔ ∀ c ∈ other, isIdentifierPart c = true := by
  induction h with
  | nil => simp
  | cons hrole _ ih => rw [List.forall_mem_cons, List.forall_mem_cons, hrole.1, ih]

/-- Two texts, character by character with the same role, are both identifiers or neither is. -/
theorem isIdentifier_iff_of_sameRole {text other : List Char}
    (h : List.Forall₂ SameRole text other) : IsIdentifier text ↔ IsIdentifier other := by
  rw [isIdentifier_iff, isIdentifier_iff, parts_iff_of_sameRole h]
  cases h with
  | nil => rfl
  | cons hrole _ => simp [hrole.2]

/-- …as they are if one comes from the other by a change of characters. -/
theorem isIdentifier_map_iff {change : Char → Char} {text : List Char}
    (h : ∀ c ∈ text, SameRole (change c) c) : IsIdentifier (text.map change) ↔ IsIdentifier text :=
  isIdentifier_iff_of_sameRole (List.forall₂_map_left_iff.2 (List.forall₂_same.2 h))

theorem sameRole_toLower {c : Char} (h : Text.IsAscii c) : SameRole c.toLower c :=
  h.forall_of (p := fun c => SameRole c.toLower c) (by unfold SameRole; decide)

theorem sameRole_toUpper {c : Char} (h : Text.IsAscii c) : SameRole c.toUpper c :=
  h.forall_of (p := fun c => SameRole c.toUpper c) (by unfold SameRole; decide)

theorem isAscii_toLower {c : Char} (h : Text.IsAscii c) : Text.IsAscii c.toLower :=
  h.forall_of (p := fun c => Text.IsAscii c.toLower) (by decide)

/-- A small letter may stand anywhere. -/
theorem isIdentifierPart_of_isLower {c : Char} (h : c.isLower = true) :
    isIdentifierPart c = true ∧ c.isDigit = false :=
  (Text.isAscii_of_isLower h).forall_of
    (p := fun c => c.isLower = true → isIdentifierPart c = true ∧ c.isDigit = false)
    (by decide) h

/-! ## Names of models -/

namespace Naming

theorem Respelled.isIdentifier {word other : List Char} (h : Respelled word other)
    (hword : IsIdentifier word) : IsIdentifier other where
  ne_nil := h.ne_nil hword.ne_nil
  parts c hc := (h.mem hc).elim (hword.parts c) fun hlower => (isIdentifierPart_of_isLower hlower).1
  start c hc :=
    (h.mem_head? hc).elim (hword.start c) fun hlower => (isIdentifierPart_of_isLower hlower).2

/-- Respelling keeps identifiers, and makes none. -/
theorem Respelled.isIdentifier_iff {word other : List Char} (h : Respelled word other) :
    IsIdentifier other ↔ IsIdentifier word :=
  ⟨h.symm.isIdentifier, h.isIdentifier⟩

variable {literal : String} (h : ∀ c ∈ literal.toList, Text.IsAscii c)

include h

theorem toList_toLower_of_ascii :
    (Text.toLower literal).toList = literal.toList.map Char.toLower := by
  rw [Text.toLower, String.toList_ofList, Text.lowerFrom_of_ascii h]

theorem isAscii_of_mem_bareName : ∀ c ∈ (bareName literal).toList, Text.IsAscii c := by
  intro c hc
  obtain hword | hlower := (respelled_singular _).mem hc
  · rw [toList_toLower_of_ascii h] at hword
    obtain ⟨d, hd, rfl⟩ := List.mem_map.1 hword
    exact isAscii_toLower (h d hd)
  · exact Text.isAscii_of_isLower hlower

/-- A bare name and the model name differ in the case of letters. -/
theorem sameRole_modelName :
    List.Forall₂ SameRole (modelName literal).toList (bareName literal).toList := by
  have hascii := isAscii_of_mem_bareName h
  obtain ⟨hbare, hname⟩ | ⟨c, rest, hbare, hname⟩ := modelName_cases literal
  · rw [hbare, hname]
    exact .nil
  · rw [hbare] at hascii ⊢
    obtain ⟨hc, hrest⟩ := List.forall_mem_cons.1 hascii
    rw [hname, Text.upperChar_of_ascii hc, Text.lowerFrom_of_ascii hrest]
    exact .cons (sameRole_toUpper hc) (List.forall₂_map_left_iff.2
      (List.forall₂_same.2 fun d hd => sameRole_toLower (hrest d hd)))

/-- **The name of a model is an identifier just if its segment is one.** -/
theorem isIdentifier_modelName_iff :
    IsIdentifier (modelName literal).toList ↔ IsIdentifier literal.toList :=
  calc IsIdentifier (modelName literal).toList
    _ ↔ IsIdentifier (bareName literal).toList :=
      isIdentifier_iff_of_sameRole (sameRole_modelName h)
    _ ↔ IsIdentifier (Text.toLower literal).toList := (respelled_singular _).isIdentifier_iff
    _ ↔ IsIdentifier (literal.toList.map Char.toLower) := by rw [toList_toLower_of_ascii h]
    _ ↔ IsIdentifier literal.toList := isIdentifier_map_iff fun c hc => sameRole_toLower (h c hc)

end Naming

/-! ## Parameters of routes -/

namespace Route

theorem sameRole_patternChar (c : Char) : SameRole (patternChar c) c := by
  unfold patternChar
  split
  · rename_i hc
    subst hc
    unfold SameRole
    decide
  · exact ⟨rfl, rfl⟩

/-- The last name that a path gives to a parameter. -/
def lastGiven? (uri : String) : Option (List Char) :=
  ((slashPieces uri.toList).filterMap givenBy?).getLast?

/-- **The parameter of a filter is an identifier just if the name in the path is one.** -/
theorem isIdentifier_parameter_iff (uri : String) :
    (∀ filter ∈ filterOf? (patternOf uri), IsIdentifier filter.parameter.toList)
      ↔ ∀ name ∈ lastGiven? uri, IsIdentifier name := by
  rw [filterOf?, parametersOf_patternOf, List.getLast?_map, ← lastGiven?]
  cases lastGiven? uri with
  | none => simp
  | some name => simp [isIdentifier_map_iff fun c _ => sameRole_patternChar c]

end Route

/-! ## Routes and their places for identifiers -/

namespace Fragment

/-- The code of a route from its second line on, up to its last place for an identifier. -/
def query (verb : Verb) (model filter : String) : String :=
  match verb with
  | .get => "    return " ++ model ++ "Model.find(" ++ filter
  | .put | .delete => "    return " ++ model ++ "Model.findOne(" ++ filter
  | .post =>
    "    var item;" ++ "\n" ++ "    console.log(req.body);" ++ "\n"
      ++ ("    item = new " ++ model ++ "Model(\x7b")
  | .patch => ""

theorem exists_intercalate_cons (line : String) (lines : List String) :
    ∃ rest, "\n".intercalate (line :: lines) = line ++ rest := by
  cases lines with
  | nil => exact ⟨"", by simp⟩
  | cons next lines => exact ⟨_, by rw [String.intercalate_cons_cons, String.append_assoc]⟩

/-- The second line of some code, as far as `front` goes… -/
theorem exists_intercalate_front (first front back : String) (lines : List String) :
    ∃ rest, "\n".intercalate (first :: (front ++ back) :: lines)
      = first ++ "\n" ++ front ++ rest := by
  obtain ⟨rest, hrest⟩ := exists_intercalate_cons (front ++ back) lines
  refine ⟨back ++ rest, ?_⟩
  rw [String.intercalate_cons_cons, hrest]
  simp only [String.append_assoc]

/-- …and its lines up to the fourth. -/
theorem exists_intercalate_fourth (first second third fourth : String) (lines : List String) :
    ∃ rest, "\n".intercalate (first :: second :: third :: fourth :: lines)
      = first ++ "\n" ++ (second ++ "\n" ++ third ++ "\n" ++ fourth) ++ rest := by
  obtain ⟨rest, hrest⟩ := exists_intercalate_cons fourth lines
  refine ⟨rest, ?_⟩
  rw [String.intercalate_cons_cons, String.intercalate_cons_cons, String.intercalate_cons_cons,
    hrest]
  simp only [String.append_assoc]

/-- **Every route has its model and filter in their places.** -/
theorem exists_compose {verb : Verb} (hverb : verb ≠ .patch) (pattern model : String)
    (fields : Option FieldSchema) :
    ∃ rest, compose verb pattern model fields
      = some (Template.routeLine verb.key pattern ++ "\n"
        ++ query verb model (Route.filterArgument pattern) ++ rest) := by
  cases verb with
  | patch => exact absurd rfl hverb
  | get | put | delete =>
    obtain ⟨rest, hrest⟩ := exists_intercalate_front ..
    exact ⟨rest, congrArg some hrest⟩
  | post =>
    obtain ⟨rest, hrest⟩ := exists_intercalate_fourth ..
    exact ⟨rest, congrArg some hrest⟩

end Fragment

namespace Operation

/-- **What the route of an operation has in the places of identifiers**: the name of its model and,
unless it stores a new item, the parameter of its filter.  PATCH has no route. -/
def placed (operation : Operation) : List String :=
  let model := (Naming.resourceName? operation.segments).toList
  let filter := (Route.filterOf? (Route.patternOf operation.uri)).toList
  match operation.method.verb with
  | .get | .put | .delete => model ++ filter.map Route.Filter.parameter
  | .post => model
  | .patch => []

/-- **A line is the route of an operation**, with its model and filter in their places. -/
def Places (operation : Operation) (line : String) : Prop :=
  ∃ model rest, Naming.resourceName? operation.segments = some model
    ∧ line = operation.routeStart ++ "\n" ++ Fragment.query operation.method.verb model
        (Route.filterArgument (Route.patternOf operation.uri)) ++ rest

theorem places_of_fragment? {operation : Operation} {line : String}
    (h : operation.fragment? = some line) : operation.Places line := by
  obtain ⟨handler, hhandler, hfragment⟩ := Option.bind_eq_some_iff.1 h
  obtain ⟨_, hok, rfl⟩ := exists_ok_of_toOption id (by rw [hhandler]; rfl)
  obtain ⟨hname, -, fields, hcompose⟩ := handler_eq_ok hok
  by_cases hverb : operation.method.verb = .patch
  · exact nomatch (fragment_of_patch hok hverb).symm.trans hfragment
  · obtain ⟨rest, hrest⟩ := Fragment.exists_compose hverb _ _ fields
    exact ⟨_, rest, hname, Option.some.inj (hfragment.symm.trans (hcompose.trans hrest))⟩

/-- One route for each operation but PATCH. -/
theorem forall₂_places {operations : List Operation}
    (h : ∀ operation ∈ operations, operation.Succeeds) :
    List.Forall₂ Places (routed operations) (operations.filterMap fragment?) := by
  have hmap := map_fragment?_routed h
  rw [← List.forall₂_eq_eq_eq, List.forall₂_map_left_iff, List.forall₂_map_right_iff] at hmap
  exact hmap.imp fun _ _ => places_of_fragment?

/-- **An operation whose path is well spelled**: where the program shows its last literal segment,
or its last parameter, that is an identifier. -/
structure WellSpelled (operation : Operation) : Prop where
  /-- The model is shown by a route, or by a declaration. -/
  literal : operation.method.verb ≠ .patch
      ∨ (∃ fields, operation.responseFields = .ok (some fields)) →
    ∀ literal ∈ Naming.lastLiteral? operation.segments, IsIdentifier literal.toList
  /-- The parameter is shown by a filter. -/
  parameter : operation.method.verb ∈ [.get, .put, .delete] →
    ∀ name ∈ Route.lastGiven? operation.uri, IsIdentifier name

theorem isIdentifier_resourceName?_iff {segments : List Segment}
    (h : ∀ literal ∈ Naming.lastLiteral? segments, ∀ c ∈ literal.toList, Text.IsAscii c) :
    (∀ name ∈ Naming.resourceName? segments, IsIdentifier name.toList)
      ↔ ∀ literal ∈ Naming.lastLiteral? segments, IsIdentifier literal.toList := by
  rw [Naming.resourceName?]
  cases hliteral : Naming.lastLiteral? segments with
  | none => simp
  | some literal => simpa using Naming.isIdentifier_modelName_iff (h literal hliteral)

/-- **What a route shows are identifiers** just if the path is well spelled, as far as it goes. -/
theorem isIdentifier_placed_iff {operation : Operation}
    (h : ∀ literal ∈ Naming.lastLiteral? operation.segments, ∀ c ∈ literal.toList, Text.IsAscii c) :
    (∀ name ∈ operation.placed, IsIdentifier name.toList)
      ↔ (operation.method.verb ≠ .patch →
          ∀ literal ∈ Naming.lastLiteral? operation.segments, IsIdentifier literal.toList)
        ∧ (operation.method.verb ∈ [.get, .put, .delete] →
          ∀ name ∈ Route.lastGiven? operation.uri, IsIdentifier name) := by
  rw [← isIdentifier_resourceName?_iff h, ← Route.isIdentifier_parameter_iff, placed]
  cases operation.method.verb <;> simp [or_imp, forall_and]

end Operation

/-! ## A whole program -/

/-- The models that a program declares have identifiers for names just if the segments they are
called after are identifiers. -/
theorem Api.isIdentifier_keys_iff {api : Api} {scaffold : Scaffold}
    (h : api.collect.result = .ok scaffold)
    (hascii : ∀ operation ∈ api.operations, ∀ literal ∈ Naming.lastLiteral? operation.segments,
      ∀ c ∈ literal.toList, Text.IsAscii c) :
    (∀ name ∈ scaffold.models.keys, IsIdentifier name.toList)
      ↔ ∀ operation ∈ api.operations, (∃ fields, operation.responseFields = .ok (some fields)) →
        ∀ literal ∈ Naming.lastLiteral? operation.segments, IsIdentifier literal.toList := by
  constructor
  · rintro hnames operation hoperation ⟨fields, hfields⟩ literal hliteral
    have hmodel := Operation.model?_eq_some_iff.2 ⟨⟨literal, hliteral, rfl⟩, hfields⟩
    have hname := hnames _ ((Api.mem_keys_iff h).2 ⟨operation, hoperation, fields, hmodel⟩)
    exact (Naming.isIdentifier_modelName_iff (hascii operation hoperation literal hliteral)).1 hname
  · intro hliterals name hname
    obtain ⟨operation, hoperation, fields, hmodel⟩ := (Api.mem_keys_iff h).1 hname
    obtain ⟨⟨literal, hliteral, rfl⟩, hfields⟩ := Operation.model?_eq_some_iff.1 hmodel
    have hidentifier := hliterals operation hoperation ⟨fields, hfields⟩ literal hliteral
    exact (Naming.isIdentifier_modelName_iff (hascii operation hoperation literal hliteral)).2
      hidentifier

open Program Document

/-- **What a program has in the places of identifiers**: the names of the models in its
declarations, and what its routes place. -/
def Program.placed (api : Api) (models : Registry) : List String :=
  models.keys ++ api.operations.flatMap Operation.placed

/-- **The places of identifiers hold identifiers** just if all paths are well spelled.  The lines of
the program show where these places are. -/
theorem placed_identifiers_iff {api : Api} (hload : api.Loaded)
    (hascii : ∀ operation ∈ api.operations, ∀ c ∈ operation.uri.toList, Text.IsAscii c)
    {order : ModelOrder} {lines : List String} (h : (api.program order).result = .ok lines) :
    ∃ scaffold, api.collect.result = .ok scaffold ∧ lines = assemble order scaffold
      ∧ List.Forall₂ Binds (order.arrange scaffold.models.keys)
        (declarations order scaffold.models)
      ∧ List.Forall₂ Operation.Places (Operation.routed api.operations) scaffold.fragments
      ∧ ((∀ name ∈ placed api scaffold.models, IsIdentifier name.toList)
        ↔ ∀ operation ∈ api.operations, operation.WellSpelled) := by
  obtain ⟨scaffold, hcollect, hlines⟩ := exists_of_program h
  obtain ⟨hsucceed, hfragments, -⟩ := Api.eq_of_collect hcollect
  have hliterals : ∀ operation ∈ api.operations, ∀ literal ∈ Naming.lastLiteral? operation.segments,
      ∀ c ∈ literal.toList, Text.IsAscii c := by
    intro operation hoperation literal hliteral c hc
    rw [hload.segments_eq hoperation] at hliteral
    exact hascii operation hoperation c
      (mem_of_mem_pathPieces (Naming.mem_pathPieces_of_lastLiteral? hliteral) hc)
  refine ⟨scaffold, hcollect, hlines, forall₂_binds order scaffold.models,
    hfragments ▸ Operation.forall₂_places hsucceed, ?_⟩
  simp only [placed, List.forall_mem_append, Api.isIdentifier_keys_iff hcollect hliterals,
    List.forall_mem_flatMap]
  constructor
  · rintro ⟨hdeclared, hplaced⟩ operation hoperation
    have hshown := (Operation.isIdentifier_placed_iff (hliterals operation hoperation)).1
      (hplaced operation hoperation)
    exact ⟨fun hcase => hcase.elim hshown.1 (hdeclared operation hoperation), hshown.2⟩
  · intro hspelled
    refine ⟨fun operation hoperation hfields =>
      (hspelled operation hoperation).literal (.inr hfields), fun operation hoperation => ?_⟩
    exact (Operation.isIdentifier_placed_iff (hliterals operation hoperation)).2
      ⟨fun hverb => (hspelled operation hoperation).literal (.inl hverb),
        (hspelled operation hoperation).parameter⟩

/-- A shop that can change its line items in parts, which gives no code, and its orders. -/
def ordersText : String :=
  "/line-items: \x7bpatch: \x7d\n" ++ "/my-shop/Orders/\x7bid\x7d: \x7bput: \x7d\n"

/-- …the same as the root of a document. -/
def ordersRoot : List (Value × Value) :=
  [(.string "/line-items", .mapping [(.string "patch", .null)]),
    (.string "/my-shop/Orders/\x7bid\x7d", .mapping [(.string "put", .null)])]

/-- Neither the shop nor its line items show; so its paths are well spelled. -/
theorem placed_identifiers_iff_orders : ∃ api scaffold,
    (Api.ofText ⟨{}, ""⟩ ordersText).result = .ok api ∧ api.collect.result = .ok scaffold
      ∧ placed api scaffold.models = ["Order", "id"]
      ∧ ∀ operation ∈ api.operations, operation.WellSpelled := by
  have htext : Value.parse ordersText = .ok (.mapping ordersRoot) := by decide +kernel
  have hroot : (Api.ofRoot ⟨{}, ""⟩ ordersRoot).result.toOption.map (fun api =>
      (api.operations.map Operation.uri,
        api.collect.result.toOption.map fun scaffold => placed api scaffold.models))
      = some (["/line-items", "/my-shop/Orders/\x7bid\x7d"], some ["Order", "id"]) := by
    decide +kernel
  obtain ⟨api, hload, hview⟩ := exists_of_ofRoot htext _ hroot
  obtain ⟨huris, hcollect⟩ := Prod.mk.inj hview
  obtain ⟨scaffold, hscaffold, hplaced⟩ := exists_ok_of_toOption _ hcollect
  have hascii : ∀ operation ∈ api.operations, ∀ c ∈ operation.uri.toList, Text.IsAscii c := by
    intro operation hoperation c hc
    have hall : ∀ uri ∈ api.operations.map Operation.uri,
        uri.toList.all (fun c => decide (Text.IsAscii c)) = true := by
      rw [huris]
      decide +kernel
    exact of_decide_eq_true
      (List.all_eq_true.1 (hall _ (List.mem_map_of_mem hoperation)) c hc)
  obtain ⟨other, hother, -, -, -, hiff⟩ :=
    placed_identifiers_iff (.ofText hload) hascii (result_program hscaffold .discovery)
  obtain rfl : scaffold = other := Except.ok.inj (hscaffold.symm.trans hother)
  refine ⟨api, scaffold, hload, hscaffold, hplaced, hiff.1 ?_⟩
  rw [hplaced]
  decide +kernel

/-- **A segment with a hyphen gives a name that is no identifier**, and the route has it. -/
theorem line_items_placed : ∃ api,
    (Api.ofText ⟨{}, ""⟩ "/line-items: \x7bget: \x7d\n").result = .ok api
      ∧ (api.program .discovery).result
        = .ok [header, Template.get.render { uri := "/line-items", model := "Line-item" }, footer]
      ∧ ¬IsIdentifier "Line-item".toList := by
  have htext : Value.parse "/line-items: \x7bget: \x7d\n"
      = .ok (.mapping [(.string "/line-items", .mapping [(.string "get", .null)])]) := by
    decide +kernel
  have hroot : (Api.ofRoot ⟨{}, ""⟩
        [(.string "/line-items", .mapping [(.string "get", .null)])]).result.toOption.map
      (fun api => (api.program .discovery).result.toOption.map id)
      = some (some
        [header, Template.get.render { uri := "/line-items", model := "Line-item" }, footer]) := by
    decide +kernel
  obtain ⟨api, hload, hprogram⟩ := exists_of_ofRoot htext _ hroot
  obtain ⟨lines, hlines, rfl⟩ := exists_ok_of_toOption id hprogram
  exact ⟨api, hload, hlines, by decide +kernel⟩

end RamlExpress
