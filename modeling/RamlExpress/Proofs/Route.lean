import Mathlib.Data.List.Basic
import RamlExpress.Proofs.Uri
import RamlExpress.Route

/-!
# Proofs/Route — the parameters of a path, read twice

    /stores/{id}  ──▸  /stores/:id  ──▸  id
         └──▸  literal stores, parameter id

The parameters of a path are read off its segments, and again off its route pattern, which has lost
the closing braces by then.

* `Route.parametersOf_patternOf` — the parameters of a pattern, read off the path.
* `parameters_agree_iff` — when both readings give the same.
-/

namespace RamlExpress

namespace Route

/-! ## Patterns -/

/-- The change that an opening brace undergoes. -/
def patternChar (c : Char) : Char := if c = '\x7b' then ':' else c

/-- **The name that a piece of a path gives to a parameter**: what stands behind the opening brace
or colon that the piece begins with, closing braces aside. -/
def givenBy? (piece : List Char) : Option (List Char) :=
  match piece.filter (· ≠ '\x7d') with
  | c :: d :: rest => if c = '\x7b' ∨ c = ':' then some (d :: rest) else none
  | _ => none

theorem patternChars_cons (c : Char) (rest : List Char) :
    patternChars (c :: rest)
      = if c = '\x7d' then patternChars rest else patternChar c :: patternChars rest := by
  by_cases hc : c = '\x7d' <;> simp [patternChars, patternChar, hc]

theorem patternChar_eq_slash_iff {c : Char} : patternChar c = '/' ↔ c = '/' := by
  unfold patternChar
  split
  · rename_i hc
    subst hc
    decide
  · rfl

/-- **A pattern has the pieces of its path**, each made a pattern. -/
theorem slashPieces_patternChars (uri : List Char) :
    slashPieces (patternChars uri) = (slashPieces uri).map patternChars := by
  induction uri with
  | nil => rfl
  | cons c rest ih =>
    obtain ⟨piece, pieces, hpieces⟩ := List.exists_cons_of_ne_nil (slashPieces_ne_nil rest)
    rw [hpieces, List.map_cons] at ih
    by_cases hbrace : c = '\x7d'
    · subst hbrace
      rw [patternChars_cons, if_pos rfl, ih]
      simp [slashPieces, hpieces, patternChars_cons]
    · rw [patternChars_cons, if_neg hbrace, slashPieces, slashPieces, ih, hpieces]
      by_cases hslash : c = '/'
      · simp [hslash, patternChar, patternChars]
      · simp [hslash, patternChar_eq_slash_iff, patternChars_cons, hbrace]

theorem patternChar_eq_colon_iff {c : Char} : patternChar c = ':' ↔ c = '\x7b' ∨ c = ':' := by
  unfold patternChar
  split
  · rename_i hc
    simp [hc]
  · rename_i hc
    simp [hc]

theorem boundBy?_singleton (c : Char) : boundBy? [c] = none := by
  unfold boundBy?
  split
  · simp_all
  · rfl

theorem boundBy?_cons_cons (c d : Char) (rest : List Char) :
    boundBy? (c :: d :: rest) = if c = ':' then some (String.ofList (d :: rest)) else none := by
  by_cases hc : c = ':'
  · subst hc
    rfl
  · simp [boundBy?, hc]

theorem boundBy?_patternChars (piece : List Char) :
    boundBy? (patternChars piece)
      = (givenBy? piece).map fun name => String.ofList (name.map patternChar) := by
  have hpattern : patternChars piece = (piece.filter (· ≠ '\x7d')).map patternChar := rfl
  rw [hpattern, givenBy?]
  match piece.filter (· ≠ '\x7d') with
  | [] => rfl
  | [c] => exact boundBy?_singleton (patternChar c)
  | c :: d :: rest =>
    simp only [List.map_cons, boundBy?_cons_cons, patternChar_eq_colon_iff]
    split <;> rfl

theorem parametersOf_patternOf_eq (uri : String) :
    parametersOf (patternOf uri)
      = (slashPieces uri.toList).filterMap fun piece => boundBy? (patternChars piece) := by
  rw [parametersOf, patternOf, String.toList_ofList, slashPieces_patternChars, List.filterMap_map]
  rfl

/-- **The parameters of a pattern are the names that its path gives**, with a colon for each opening
brace in them. -/
theorem parametersOf_patternOf (uri : String) :
    parametersOf (patternOf uri) = ((slashPieces uri.toList).filterMap givenBy?).map
      fun name => String.ofList (name.map patternChar) := by
  rw [parametersOf_patternOf_eq, List.map_filterMap]
  exact List.filterMap_congr fun piece _ => boundBy?_patternChars piece

/-- The parameters of a pattern hold no character that the pattern does not. -/
theorem mem_of_mem_parametersOf {pattern name : String} (h : name ∈ parametersOf pattern) {c : Char}
    (hc : c ∈ name.toList) : c ∈ pattern.toList := by
  obtain ⟨piece, hpiece, hbound⟩ := List.mem_filterMap.1 h
  refine mem_of_mem_slashPieces hpiece ?_
  unfold boundBy? at hbound
  split at hbound
  · obtain rfl := Option.some.inj hbound
    rw [String.toList_ofList] at hc
    exact List.mem_cons_of_mem _ hc
  · contradiction

/-! ## Both readings of a piece -/

/-- **A name that a pattern leaves as it is.** -/
structure IsPlain (name : List Char) : Prop where
  ne_nil : name ≠ []
  no_opening : '\x7b' ∉ name
  no_closing : '\x7d' ∉ name

theorem notMem_patternChars (text : List Char) :
    '\x7b' ∉ patternChars text ∧ '\x7d' ∉ patternChars text := by
  induction text with
  | nil => exact ⟨nofun, nofun⟩
  | cons c rest ih =>
    rw [patternChars_cons]
    split
    · exact ih
    · rename_i hc
      simp only [List.mem_cons, not_or, patternChar]
      split
      · exact ⟨⟨by decide, ih.1⟩, by decide, ih.2⟩
      · rename_i hopening
        exact ⟨⟨Ne.symm hopening, ih.1⟩, Ne.symm hc, ih.2⟩

/-- A pattern binds plain names only… -/
theorem isPlain_of_boundBy? {piece : List Char} {name : String}
    (h : boundBy? (patternChars piece) = some name) : IsPlain name.toList := by
  obtain ⟨hopening, hclosing⟩ := notMem_patternChars piece
  unfold boundBy? at h
  split at h
  · rename_i c rest hpattern
    obtain rfl := Option.some.inj h
    rw [hpattern] at hopening hclosing
    rw [String.toList_ofList]
    exact ⟨List.cons_ne_nil c rest, fun hmem => hopening (List.mem_cons_of_mem _ hmem),
      fun hmem => hclosing (List.mem_cons_of_mem _ hmem)⟩
  · contradiction

theorem patternChars_append (front back : List Char) :
    patternChars (front ++ back) = patternChars front ++ patternChars back := by
  simp [patternChars]

theorem patternChars_eq_self {text : List Char} (hopening : '\x7b' ∉ text)
    (hclosing : '\x7d' ∉ text) : patternChars text = text := by
  have hfilter : text.filter (· ≠ '\x7d') = text :=
    List.filter_eq_self.2 fun c hc => by simpa using fun heq : c = '\x7d' => hclosing (heq ▸ hc)
  have hmap : ∀ c ∈ text, (if c = '\x7b' then ':' else c) = c :=
    fun c hc => if_neg fun heq : c = '\x7b' => hopening (heq ▸ hc)
  rw [patternChars, hfilter, List.map_congr_left hmap, List.map_id']

/-- Braces become one colon. -/
theorem patternChars_braced (name : List Char) :
    patternChars ('\x7b' :: name ++ ['\x7d']) = ':' :: patternChars name := by
  rw [List.cons_append, patternChars_cons, if_neg (by decide), patternChars_append]
  simp [patternChar, patternChars]

/-- **Between braces, both readings agree on plain names only.** -/
theorem boundBy?_patternChars_eq_iff {piece name : List Char} (h : unbraced? piece = some name) :
    boundBy? (patternChars piece) = some (String.ofList name) ↔ IsPlain name := by
  constructor
  · intro hbound
    simpa using isPlain_of_boundBy? hbound
  · intro hplain
    obtain rfl := unbraced?_eq_some_iff.1 h
    obtain ⟨c, rest, rfl⟩ := List.exists_cons_of_ne_nil hplain.ne_nil
    rw [patternChars_braced, patternChars_eq_self hplain.no_opening hplain.no_closing]
    rfl

/-- Elsewhere, they agree on pieces that give no name. -/
theorem boundBy?_patternChars_eq_none_iff {piece : List Char} :
    boundBy? (patternChars piece) = none
      ↔ ¬∃ c rest, piece.filter (· ≠ '\x7d') = c :: rest ∧ rest ≠ [] ∧ (c = '\x7b' ∨ c = ':') := by
  rw [boundBy?_patternChars, Option.map_eq_none_iff, givenBy?]
  cases piece.filter (· ≠ '\x7d') with
  | nil => simp
  | cons c rest =>
    cases rest with
    | nil => simp
    | cons d rest => simp

/-! ## Both readings of a path -/

section Readings

variable {α β : Type} {first second : α → Option β} {items : List α}

theorem length_filterMap_le
    (h : ∀ item ∈ items, ∀ value, second item = some value → first item = some value) :
    (items.filterMap second).length ≤ (items.filterMap first).length := by
  induction items with
  | nil => exact Nat.le_refl 0
  | cons item rest ih =>
    obtain ⟨hitem, hrest⟩ := List.forall_mem_cons.1 h
    have hle := ih hrest
    cases hsecond : second item with
    | some value =>
      rw [List.filterMap_cons_some hsecond, List.filterMap_cons_some (hitem value hsecond)]
      exact Nat.succ_le_succ hle
    | none =>
      rw [List.filterMap_cons_none hsecond]
      cases hfirst : first item with
      | none => rwa [List.filterMap_cons_none hfirst]
      | some value =>
        rw [List.filterMap_cons_some hfirst]
        exact Nat.le_succ_of_le hle

/-- **Two readings of a list agree just if they agree on each item**, where the first gives at least
what the second does: whatever it gives besides would make its list longer. -/
theorem filterMap_eq_filterMap_iff
    (h : ∀ item ∈ items, ∀ value, second item = some value → first item = some value) :
    items.filterMap first = items.filterMap second
      ↔ ∀ item ∈ items, first item = second item := by
  refine ⟨fun heq => ?_, List.filterMap_congr⟩
  induction items with
  | nil => exact nofun
  | cons item rest ih =>
    obtain ⟨hitem, hrest⟩ := List.forall_mem_cons.1 h
    cases hsecond : second item with
    | some value =>
      have hfirst := hitem value hsecond
      rw [List.filterMap_cons_some hfirst, List.filterMap_cons_some hsecond] at heq
      exact List.forall_mem_cons.2 ⟨hfirst.trans hsecond.symm, ih hrest (List.cons.inj heq).2⟩
    | none =>
      rw [List.filterMap_cons_none hsecond] at heq
      cases hfirst : first item with
      | none =>
        rw [List.filterMap_cons_none hfirst] at heq
        exact List.forall_mem_cons.2 ⟨hfirst.trans hsecond.symm, ih hrest heq⟩
      | some value =>
        rw [List.filterMap_cons_some hfirst] at heq
        have hle := length_filterMap_le hrest
        rw [← heq, List.length_cons] at hle
        exact absurd hle (Nat.not_succ_le_self _)

end Readings

theorem parameter?_ofPiece (piece : String) :
    (Segment.ofPiece piece).parameter? = (unbraced? piece.toList).map String.ofList := by
  rw [Segment.ofPiece]
  cases unbraced? piece.toList <;> rfl

theorem filterMap_parameter?_segmentsOf (uri : String) :
    (segmentsOf uri).filterMap Segment.parameter?
      = (slashPieces uri.toList).filterMap fun piece => (unbraced? piece).map String.ofList := by
  rw [segmentsOf, pathPieces, List.filterMap_map, List.filterMap_map, List.filterMap_filter]
  refine List.filterMap_congr fun piece _ => ?_
  cases piece with
  | nil => rfl
  | cons c rest => simp [parameter?_ofPiece]

/-- **A path with plain parameters**: each has a name, without braces, and no other piece looks like
one. -/
structure PlainParameters (uri : String) : Prop where
  named : ∀ piece ∈ slashPieces uri.toList, ∀ name,
    Segment.ofPiece (String.ofList piece) = .parameter name →
      name ≠ "" ∧ '\x7b' ∉ name.toList ∧ '\x7d' ∉ name.toList
  /-- Closing braces aside, another piece has one character or starts like a literal. -/
  others : ∀ piece ∈ slashPieces uri.toList,
    (∀ name, Segment.ofPiece (String.ofList piece) ≠ .parameter name) →
      ¬∃ c rest, piece.filter (· ≠ '\x7d') = c :: rest ∧ rest ≠ [] ∧ (c = '\x7b' ∨ c = ':')

theorem ofPiece_eq_parameter_iff {piece : List Char} {name : String} :
    Segment.ofPiece (String.ofList piece) = .parameter name
      ↔ unbraced? piece = some name.toList := by
  rw [Segment.ofPiece, String.toList_ofList]
  cases unbraced? piece with
  | none => simp
  | some text =>
    simp only [Segment.parameter.injEq, Option.some.injEq]
    exact ⟨fun h => by rw [← h, String.toList_ofList], fun h => by rw [h, String.ofList_toList]⟩

/-- …that is, both readings agree on each of its pieces. -/
theorem plainParameters_iff {uri : String} : PlainParameters uri ↔ ∀ piece ∈ slashPieces uri.toList,
    boundBy? (patternChars piece) = (unbraced? piece).map String.ofList := by
  constructor
  · intro h piece hpiece
    cases hname : unbraced? piece with
    | some name =>
      obtain ⟨hne, hopening, hclosing⟩ :=
        h.named piece hpiece (String.ofList name)
          (ofPiece_eq_parameter_iff.2 (by simpa using hname))
      exact (boundBy?_patternChars_eq_iff hname).2
        ⟨by simpa using hne, by simpa using hopening, by simpa using hclosing⟩
    | none =>
      have hother : ∀ name, Segment.ofPiece (String.ofList piece) ≠ .parameter name := by
        intro name hparameter
        exact nomatch hname.symm.trans (ofPiece_eq_parameter_iff.1 hparameter)
      exact boundBy?_patternChars_eq_none_iff.2 (h.others piece hpiece hother)
  · intro h
    refine ⟨fun piece hpiece name hparameter => ?_, fun piece hpiece hother => ?_⟩
    · have hname := ofPiece_eq_parameter_iff.1 hparameter
      have hbound := h piece hpiece
      rw [hname] at hbound
      obtain ⟨hne, hopening, hclosing⟩ := (boundBy?_patternChars_eq_iff hname).1 hbound
      exact ⟨by simpa using hne, hopening, hclosing⟩
    · have hname : unbraced? piece = none := by
        refine Option.eq_none_iff_forall_ne_some.2 fun name hname => hother (String.ofList name) ?_
        exact ofPiece_eq_parameter_iff.2 (by simpa using hname)
      have hbound := h piece hpiece
      rw [hname] at hbound
      exact boundBy?_patternChars_eq_none_iff.1 hbound

/-- The two lists are the same just if the readings of each piece are.  Names that a pattern binds
are plain, and on plain names the readings agree: so the pattern gives all that the segments
give. -/
theorem parametersOf_patternOf_eq_iff (uri : String) :
    parametersOf (patternOf uri) = (segmentsOf uri).filterMap Segment.parameter?
      ↔ ∀ piece ∈ slashPieces uri.toList,
        boundBy? (patternChars piece) = (unbraced? piece).map String.ofList := by
  rw [parametersOf_patternOf_eq, filterMap_parameter?_segmentsOf]
  refine ⟨fun heq => (filterMap_eq_filterMap_iff fun piece hpiece name hname => ?_).1 heq,
    List.filterMap_congr⟩
  obtain ⟨chars, hchars, rfl⟩ := Option.map_eq_some_iff.1 hname
  have hmem : String.ofList chars
      ∈ (slashPieces uri.toList).filterMap fun piece => boundBy? (patternChars piece) :=
    heq ▸ List.mem_filterMap.2 ⟨piece, hpiece, hname⟩
  obtain ⟨other, -, hbound⟩ := List.mem_filterMap.1 hmem
  exact (boundBy?_patternChars_eq_iff hchars).2 (by simpa using isPlain_of_boundBy? hbound)

end Route

open Route

/-- **The two readings of the parameters agree just on paths with plain parameters**, and there the
filter is on the last parameter. -/
theorem parameters_agree_iff (uri : String) :
    let names := (segmentsOf uri).filterMap Segment.parameter?
    (parametersOf (patternOf uri) = names ↔ PlainParameters uri)
    ∧ (PlainParameters uri → filterOf? (patternOf uri) = names.getLast?.map Route.Filter.mk) := by
  intro names
  have hiff : parametersOf (patternOf uri) = names ↔ PlainParameters uri :=
    (parametersOf_patternOf_eq_iff uri).trans plainParameters_iff.symm
  refine ⟨hiff, fun hplain => ?_⟩
  rw [filterOf?, hiff.2 hplain]

/-- Braces that close nothing, lone colons and empty pieces do no harm; a suffix does. -/
theorem parameters_agree_iff_stores :
    PlainParameters "/stores/\x7bstoreId\x7d//a\x7d/:/\x7bid\x7d"
    ∧ filterOf? (patternOf "/stores/\x7bstoreId\x7d//a\x7d/:/\x7bid\x7d") = some ⟨"id"⟩
    ∧ ¬PlainParameters "/stores/\x7bid\x7d.json" := by
  obtain ⟨hplain, hfilter⟩ := parameters_agree_iff "/stores/\x7bstoreId\x7d//a\x7d/:/\x7bid\x7d"
  have hstores := hplain.1 (by decide +kernel)
  refine ⟨hstores, (hfilter hstores).trans (by decide +kernel), fun hjson => ?_⟩
  have hagree := (parameters_agree_iff "/stores/\x7bid\x7d.json").1.2 hjson
  exact absurd hagree (by decide +kernel)

end RamlExpress
