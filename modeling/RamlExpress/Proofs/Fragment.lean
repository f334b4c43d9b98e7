import Mathlib.Data.List.Basic
import RamlExpress.Fragment
import RamlExpress.Proofs.OrderedMap
import RamlExpress.Proofs.Route

/-!
# Proofs/Fragment — a route shows what it was made from

What fills the slots of a template stands there as it is, quotes, braces and all.  Still, nothing is
lost: as long as it has no line breaks, the lines of a route can be told apart, each slot has a line
with only known text around it, and a field is one line of its own.

* `Template.memberLines_injective` — the members of a new item show the fields, in order…
* `Template.assignmentLines_injective` — …and so do the assignments to a stored one.
* `fragment_determines_route` — equal routes have the same verb, pattern, model and fields.
-/

namespace RamlExpress

/-! ## Lines -/

/-- **A text of one line.** -/
def IsLine (text : String) : Prop := '\n' ∉ text.toList

instance (text : String) : Decidable (IsLine text) :=
  inferInstanceAs (Decidable ('\n' ∉ text.toList))

/-- A literal is a list of characters; to spell it out as one spares the decoding of its octets. -/
theorem isLine_ofList {chars : List Char} (h : '\n' ∉ chars) : IsLine (String.ofList chars) := by
  rwa [IsLine, String.toList_ofList]

@[simp] theorem isLine_append {front back : String} :
    IsLine (front ++ back) ↔ IsLine front ∧ IsLine back := by
  simp [IsLine]

/-- Texts of one line each. -/
def AreLines (lines : List String) : Prop := ∀ line ∈ lines, IsLine line

instance (lines : List String) : Decidable (AreLines lines) :=
  inferInstanceAs (Decidable (∀ line ∈ lines, IsLine line))

@[simp] theorem areLines_nil : AreLines [] := nofun

@[simp] theorem areLines_cons {line : String} {rest : List String} :
    AreLines (line :: rest) ↔ IsLine line ∧ AreLines rest :=
  List.forall_mem_cons

@[simp] theorem areLines_append {front back : List String} :
    AreLines (front ++ back) ↔ AreLines front ∧ AreLines back :=
  List.forall_mem_append

/-- **Lines can be told apart** in the text that they make. -/
theorem eq_of_intercalate_eq {lines others : List String} (hlines : AreLines lines)
    (hothers : AreLines others) (hne : lines ≠ []) (hne' : others ≠ [])
    (h : "\n".intercalate lines = "\n".intercalate others) : lines = others := by
  have hsplit {lines : List String} (hlines : AreLines lines) (hne : lines ≠ []) :
      ("\n".intercalate lines).toList.splitOn '\n' = lines.map String.toList := by
    rw [String.toList_intercalate]
    refine List.splitOn_intercalate '\n' (fun chars hchars => ?_) (by simpa using hne)
    obtain ⟨line, hline, rfl⟩ := List.mem_map.1 hchars
    exact hlines line hline
  refine List.map_injective_iff.2 (fun _ _ => String.toList_inj.1) ?_
  rw [← hsplit hlines hne, h, hsplit hothers hne']

/-- A text that stands twice in a line, with known text around it, can be read off the line: the
length of the line gives its length. -/
theorem eq_of_twice_eq {before middle after field other : String}
    (h : before ++ field ++ middle ++ field ++ after
      = before ++ other ++ middle ++ other ++ after) : field = other := by
  have hinner : field.toList ++ (middle.toList ++ field.toList)
      = other.toList ++ (middle.toList ++ other.toList) := by
    have htext := (String.append_left_inj after).1 h
    simp only [String.append_assoc] at htext
    simpa using congrArg String.toList ((String.append_right_inj before).1 htext)
  have hlength : field.toList.length = other.toList.length := by
    have := congrArg List.length hinner
    simp only [List.length_append] at this
    omega
  exact String.toList_inj.1 (List.append_inj_left hinner hlength)

namespace Template

/-! ## Fields -/

/-- The line of a member; all but the last have a comma. -/
def memberLine (field : String) (last : Bool) : String :=
  "        " ++ field ++ ": req.body." ++ field ++ (if last then "" else ",")

theorem memberLines_cons (field : String) (rest : List String) :
    memberLines (field :: rest) = memberLine field rest.isEmpty :: memberLines rest := by
  cases rest with
  | nil => simp [memberLines, memberLine]
  | cons next rest => rfl

/-- **The members of a new item show its fields**, in order. -/
theorem memberLines_injective : Function.Injective memberLines := by
  intro fields others h
  induction fields generalizing others with
  | nil =>
    cases others with
    | nil => rfl
    | cons other rest => simp [memberLines_cons, memberLines] at h
  | cons field rest ih =>
    cases others with
    | nil => simp [memberLines_cons, memberLines] at h
    | cons other others =>
      rw [memberLines_cons, memberLines_cons] at h
      obtain ⟨hline, hrest⟩ := List.cons.inj h
      -- Only with the same fields behind it does a line end in the same way.
      obtain rfl := ih hrest
      rw [eq_of_twice_eq hline]

/-- **The assignments to a stored item show its fields**, in order. -/
theorem assignmentLines_injective : Function.Injective assignmentLines :=
  List.map_injective_iff.2 fun _ _ => eq_of_twice_eq

/-! ## Verbs, patterns and models -/

theorem key_injective : Function.Injective Verb.key := by
  intro verb other
  cases verb <;> cases other <;> decide

/-- Two texts are the same up to the first place of a character if the whole is. -/
theorem append_cons_inj {front other back rest : List Char} {c : Char} (hfront : c ∉ front)
    (hother : c ∉ other) (h : front ++ c :: back = other ++ c :: rest) :
    front = other ∧ back = rest := by
  have htake : ∀ {front back : List Char}, c ∉ front →
      (front ++ c :: back).takeWhile (· ≠ c) = front := by
    intro front back hfront
    rw [List.takeWhile_append_of_pos, List.takeWhile_cons_of_neg (by simp), List.append_nil]
    exact fun d hd => by simpa using fun heq : d = c => hfront (heq ▸ hd)
  obtain rfl : front = other := by rw [← htake hfront, h, htake hother]
  exact ⟨rfl, (List.cons.inj (List.append_cancel_left h)).2⟩

/-- **The first line of a route shows its verb and its pattern.** -/
theorem routeLine_inj {verb other : Verb} {uri uri' : String}
    (h : routeLine verb.key uri = routeLine other.key uri') : verb = other ∧ uri = uri' := by
  have hparen (verb : Verb) : '(' ∉ verb.key.toList := by
    cases verb <;> decide
  simp only [routeLine, String.append_assoc, String.append_right_inj] at h
  have hlist := congrArg String.toList h
  simp only [String.toList_append] at hlist
  obtain ⟨hkey, -⟩ := append_cons_inj (hparen verb) (hparen other) hlist
  obtain rfl := key_injective (String.toList_inj.1 hkey)
  simp only [String.append_right_inj, String.append_left_inj] at h
  exact ⟨rfl, h⟩

variable {slots other : Slots}

theorem model_of_getLines (hfilter : slots.filter = other.filter)
    (h : getLines slots = getLines other) : slots.model = other.model := by
  simp only [getLines, List.cons.injEq, hfilter, String.append_left_inj,
    String.append_right_inj] at h
  exact h.2.1

theorem model_of_findLines (hfilter : slots.filter = other.filter)
    (h : findLines slots = findLines other) : slots.model = other.model := by
  simp only [findLines, List.cons.injEq, hfilter, String.append_left_inj,
    String.append_right_inj] at h
  exact h.1

theorem of_postLines (h : postLines slots = postLines other) :
    slots.model = other.model ∧ slots.fields = other.fields := by
  simp only [postLines, List.append_left_inj, List.cons_append, List.nil_append, List.cons.injEq,
    String.append_left_inj, String.append_right_inj] at h
  exact ⟨h.2.2.2.1, memberLines_injective h.2.2.2.2⟩

theorem of_putLines (hfilter : slots.filter = other.filter) (h : putLines slots = putLines other) :
    slots.model = other.model ∧ slots.fields = other.fields := by
  simp only [putLines, List.append_left_inj, List.cons_append, List.cons.injEq] at h
  obtain ⟨hfind, hfields⟩ := List.append_inj h.2 rfl
  exact ⟨model_of_findLines hfilter hfind, assignmentLines_injective hfields⟩

theorem model_of_deleteLines (hfilter : slots.filter = other.filter)
    (h : deleteLines slots = deleteLines other) : slots.model = other.model := by
  simp only [deleteLines, List.append_left_inj, List.singleton_append, List.cons.injEq] at h
  exact model_of_findLines hfilter h.2

end Template

namespace Fragment

open Template

/-! ## Routes -/

/-- The first line of every route is its route line. -/
theorem lines_eq_cons {verb : Verb} {template : Template} (h : templateOf? verb = some template)
    (slots : Slots) :
    template.lines slots = routeLine verb.key slots.uri :: (template.lines slots).tail := by
  cases verb <;> cases h <;> rfl

theorem isLine_filterArgument {pattern : String} (h : IsLine pattern) :
    IsLine (Route.filterArgument pattern) := by
  rw [Route.filterArgument]
  cases hfilter : Route.filterOf? pattern with
  | none => decide
  | some filter =>
    obtain ⟨name, hname, rfl⟩ := Option.map_eq_some_iff.1 hfilter
    have hline : IsLine name := fun hmem =>
      h (Route.mem_of_mem_parametersOf (List.mem_of_getLast? hname) hmem)
    simp only [Route.Filter.text, isLine_append, hline]
    decide

theorem areLines_memberLines {fields : List String} (h : AreLines fields) :
    AreLines (memberLines fields) := by
  induction fields with
  | nil => exact areLines_nil
  | cons field rest ih =>
    obtain ⟨hfield, hrest⟩ := areLines_cons.1 h
    rw [memberLines_cons, areLines_cons]
    refine ⟨?_, ih hrest⟩
    simp only [memberLine, isLine_append, hfield, and_true]
    split <;> and_intros <;> exact isLine_ofList (by decide)

theorem areLines_assignmentLines {fields : List String} (h : AreLines fields) :
    AreLines (assignmentLines fields) := by
  simp only [AreLines, assignmentLines, List.forall_mem_map, isLine_append]
  intro field hfield
  simp only [h field hfield]
  decide

/-- Slots without line breaks are filled into lines. -/
theorem areLines_lines {verb : Verb} {template : Template} (h : templateOf? verb = some template)
    {slots : Slots} (huri : IsLine slots.uri) (hmodel : IsLine slots.model)
    (hfilter : IsLine slots.filter) (hfields : AreLines slots.fields) :
    AreLines (template.lines slots) := by
  have hmembers := areLines_memberLines hfields
  have hassignments := areLines_assignmentLines hfields
  cases verb with
  | patch => contradiction
  | get | post | put | delete =>
    obtain rfl := Option.some.inj h
    -- What is left is about the text around the slots.
    simp only [lines, getLines, postLines, putLines, deleteLines, findLines, routeLine,
      areLines_append, areLines_cons, areLines_nil, isLine_append, huri, hmodel, hfilter, hmembers,
      hassignments, and_true]
    and_intros <;> exact isLine_ofList (by decide)

/-- **Behind its first line, a route shows its model** and, where it reads them, its fields. -/
theorem shown_of_lines {verb : Verb} {template : Template} (h : templateOf? verb = some template)
    {slots other : Slots} (hfilter : slots.filter = other.filter)
    (hlines : template.lines slots = template.lines other) :
    slots.model = other.model ∧ (verb ∈ [.post, .put] → slots.fields = other.fields) := by
  cases verb with
  | patch => contradiction
  | get =>
    obtain rfl := Option.some.inj h
    exact ⟨model_of_getLines hfilter hlines, fun hmem => absurd hmem (by decide)⟩
  | post =>
    obtain rfl := Option.some.inj h
    exact (of_postLines hlines).imp_right fun hfields _ => hfields
  | put =>
    obtain rfl := Option.some.inj h
    exact (of_putLines hfilter hlines).imp_right fun hfields _ => hfields
  | delete =>
    obtain rfl := Option.some.inj h
    exact ⟨model_of_deleteLines hfilter hlines, fun hmem => absurd hmem (by decide)⟩

/-- **What a route is made from.** -/
structure Source where
  verb : Verb
  pattern : String
  model : String
  fields : Option FieldSchema

namespace Source

/-- The code of the route; none for PATCH. -/
def code? (source : Source) : Option String :=
  compose source.verb source.pattern source.model source.fields

/-- No line breaks in what a route is made from. -/
structure Unbroken (source : Source) : Prop where
  pattern : IsLine source.pattern
  model : IsLine source.model
  fields : AreLines (fieldNames source.fields)

/-- What fills the slots. -/
def slots (source : Source) : Slots where
  uri := source.pattern
  model := source.model
  filter := Route.filterArgument source.pattern
  fields := fieldNames source.fields

theorem exists_lines {source : Source} (h : source.Unbroken) {code : String}
    (hcode : source.code? = some code) :
    ∃ template, templateOf? source.verb = some template ∧ AreLines (template.lines source.slots)
      ∧ code = "\n".intercalate (template.lines source.slots) := by
  obtain ⟨template, htemplate, rfl⟩ := Option.map_eq_some_iff.1 hcode
  exact ⟨template, htemplate,
    areLines_lines htemplate h.pattern h.model (isLine_filterArgument h.pattern) h.fields, rfl⟩

end Source

end Fragment

open Fragment Template

/-- **A route shows what it was made from**: two routes with the same code have the same verb, the
same pattern and the same model and, where they read fields, the same fields in the same order. -/
theorem fragment_determines_route {first second : Source} (hfirst : first.Unbroken)
    (hsecond : second.Unbroken) {code : String} (hcode : first.code? = some code)
    (hcode' : second.code? = some code) :
    first.verb = second.verb ∧ first.pattern = second.pattern ∧ first.model = second.model
      ∧ (first.verb ∈ [.post, .put] → fieldNames first.fields = fieldNames second.fields) := by
  obtain ⟨template, htemplate, hlines, rfl⟩ := Source.exists_lines hfirst hcode
  obtain ⟨template', htemplate', hlines', htext⟩ := Source.exists_lines hsecond hcode'
  have hcons := lines_eq_cons htemplate first.slots
  have hcons' := lines_eq_cons htemplate' second.slots
  have heq : template.lines first.slots = template'.lines second.slots :=
    eq_of_intercalate_eq hlines hlines' (by rw [hcons]; simp) (by rw [hcons']; simp) htext
  obtain ⟨hverb, hpattern⟩ :=
    routeLine_inj (List.cons.inj (hcons.symm.trans (heq.trans hcons'))).1
  obtain rfl : template = template' :=
    Option.some.inj (htemplate.symm.trans (hverb ▸ htemplate'))
  exact ⟨hverb, hpattern,
    shown_of_lines htemplate (congrArg Route.filterArgument hpattern) heq⟩

/-- A route that stores what imitates the code around it: the names of its fields end in commas, or
close the item. -/
def mimicry (kind : FieldKind) : Source where
  verb := .post
  pattern := "/a', function (req, res)\x7b"
  model := "Item"
  fields := some (.ofEntries
    [("a: req.body.a,", { kind }), ("    \x7d);", { kind, required := true }), ("", { kind })])

/-- What its fields are does not show; their names do. -/
theorem fragment_determines_route_mimicry :
    ∃ code, (mimicry .string).code? = some code ∧ (mimicry .number).code? = some code
      ∧ fieldNames (mimicry .string).fields = fieldNames (mimicry .number).fields := by
  have hunbroken (kind : FieldKind) : (mimicry kind).Unbroken := by
    cases kind <;> exact ⟨by decide +kernel, by decide +kernel, by decide +kernel⟩
  have hsame : (mimicry .number).code? = (mimicry .string).code? := by decide +kernel
  obtain ⟨code, hcode⟩ := Option.isSome_iff_exists.1
    (show (mimicry .string).code?.isSome = true from rfl)
  obtain ⟨-, -, -, hfields⟩ := fragment_determines_route (hunbroken .string) (hunbroken .number)
    hcode (hsame.trans hcode)
  exact ⟨code, hcode, hsame.trans hcode, hfields (by decide)⟩

end RamlExpress
