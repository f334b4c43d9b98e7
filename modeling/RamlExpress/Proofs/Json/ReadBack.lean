import RamlExpress.Proofs.Json.Machine
import RamlExpress.Proofs.OrderedMap

/-!
# Proofs/Json/ReadBack — reading what was written

`Json.spaced` writes a value with blanks of one's choice between its parts; the compact form is the
one without any, and the one laid out has a line break before each part.  Such a text is read back
as the value itself, but for its numbers (`Json.reread`), if no more collections are open at once
than the reader allows, and refused for that reason otherwise.

* `Json.run_spaced` — the reader on a text that is not nested too deep.
* `Json.run_spaced_tooDeep` — …and on any other.
-/

namespace RamlExpress.Json

/-! ## Values and their texts -/

/-- **Induction on a value**: what holds of a collection if it holds of all that is in it, and of
everything else, holds of every value. -/
@[elab_as_elim] theorem induct {P : Json → Prop} (null : P .null) (bool : ∀ value, P (.bool value))
    (number : ∀ value, P (.number value)) (string : ∀ value, P (.string value))
    (array : ∀ items, (∀ item ∈ items, P item) → P (.array items))
    (object : ∀ members, (∀ member ∈ members, P member.2) → P (.object members)) :
    ∀ value, P value
  | .null => null
  | .bool value => bool value
  | .number value => number value
  | .string value => string value
  | .array items => array items fun item _ => induct null bool number string array object item
  | .object members =>
    object members fun member _ => induct null bool number string array object member.2
decreasing_by
  · have := List.sizeOf_lt_of_mem ‹item ∈ items›
    simp only [Json.array.sizeOf_spec]
    omega
  · have hmember := List.sizeOf_lt_of_mem ‹member ∈ members›
    obtain ⟨name, value⟩ := member
    simp only [Prod.mk.sizeOf_spec] at hmember
    simp only [Json.object.sizeOf_spec]
    omega

/-- What stands between the parts of a text: before an item, a member or the end of a collection at
a level, and behind a colon. -/
structure Spacing where
  gap : Nat → List Char
  colon : List Char
  gap_blank : ∀ level, ∀ c ∈ gap level, isSpace c = true
  colon_blank : ∀ c ∈ colon, isSpace c = true

/-- Nothing between the parts. -/
def Spacing.none : Spacing := ⟨fun _ => [], [], by simp, by simp⟩

@[simp] theorem Spacing.gap_none (level : Nat) : Spacing.none.gap level = [] := rfl

@[simp] theorem Spacing.colon_none : Spacing.none.colon = [] := rfl

mutual

/-- **A value as text**, with blanks between its parts. -/
def spaced (s : Spacing) (level : Nat) : Json → List Char
  | null => ['n', 'u', 'l', 'l']
  | bool true => ['t', 'r', 'u', 'e']
  | bool false => ['f', 'a', 'l', 's', 'e']
  | number value => numberText value
  | string value => quote value
  | array [] => ['[', ']']
  | object [] => ['\x7b', '\x7d']
  | array (item :: rest) =>
    '[' :: (s.gap (level + 1) ++ (spaced s (level + 1) item
      ++ (moreItems s (level + 1) rest ++ (s.gap level ++ [']']))))
  | object ((name, value) :: rest) =>
    '\x7b' :: (s.gap (level + 1) ++ (quote name ++ ':' :: (s.colon ++ (spaced s (level + 1) value
      ++ (moreMembers s (level + 1) rest ++ (s.gap level ++ ['\x7d']))))))

/-- The items behind the first, each behind a comma. -/
def moreItems (s : Spacing) (level : Nat) : List Json → List Char
  | [] => []
  | item :: rest => ',' :: (s.gap level ++ (spaced s level item ++ moreItems s level rest))

/-- The members behind the first, each behind a comma. -/
def moreMembers (s : Spacing) (level : Nat) : List (String × Json) → List Char
  | [] => []
  | (name, value) :: rest =>
    ',' :: (s.gap level ++ (quote name ++ ':' :: (s.colon ++ (spaced s level value
      ++ moreMembers s level rest))))

end

theorem compactItems_eq {level : Nat} {item : Json} {rest : List Json}
    (h : ∀ other ∈ item :: rest, compactChars other = spaced .none level other) :
    compactItems (item :: rest) = spaced .none level item ++ moreItems .none level rest := by
  induction rest generalizing item with
  | nil => simp [compactItems, moreItems, h]
  | cons next rest ih =>
    obtain ⟨hitem, hrest⟩ := List.forall_mem_cons.1 h
    simp [compactItems, moreItems, hitem, ih hrest]

theorem compactMembers_eq {level : Nat} {name : String} {value : Json}
    {rest : List (String × Json)}
    (h : ∀ other ∈ (name, value) :: rest, compactChars other.2 = spaced .none level other.2) :
    compactMembers ((name, value) :: rest)
      = quote name ++ ':' :: (spaced .none level value ++ moreMembers .none level rest) := by
  induction rest generalizing name value with
  | nil => simp [compactMembers, moreMembers, h (name, value)]
  | cons next rest ih =>
    obtain ⟨hitem, hrest⟩ := List.forall_mem_cons.1 h
    obtain ⟨next, other⟩ := next
    simp only [compactMembers, moreMembers, hitem, ih hrest]
    simp

/-- **The compact text has no blanks.** -/
theorem compactChars_eq (level : Nat) (value : Json) :
    compactChars value = spaced .none level value := by
  induction value using induct generalizing level with
  | null | number _ | string _ => simp [compactChars, spaced]
  | bool value => cases value <;> simp [compactChars, spaced]
  | array items ih =>
    cases items with
    | nil => simp [compactChars, compactItems, spaced]
    | cons item rest =>
      rw [compactChars, compactItems_eq fun other hother => ih other hother (level + 1)]
      simp [spaced]
  | object members ih =>
    rcases members with _ | ⟨⟨name, value⟩, rest⟩
    · simp [compactChars, compactMembers, spaced]
    · rw [compactChars, compactMembers_eq fun other hother => ih other hother (level + 1)]
      simp [spaced]

/-- Every part on a line of its own. -/
def Spacing.lines (width : Nat) : Spacing where
  gap level := lineAt width level
  colon := [' ']
  gap_blank level c hc := by
    rcases List.mem_cons.1 hc with rfl | hspace
    · rfl
    · rw [List.eq_of_mem_replicate hspace]
      rfl
  colon_blank := by simp [isSpace]

theorem prettyItems_eq {width level : Nat} {item : Json} {rest : List Json}
    (h : ∀ other ∈ item :: rest,
      prettyChars width level other = spaced (.lines width) level other) :
    prettyItems width level (item :: rest)
      = lineAt width level
        ++ (spaced (.lines width) level item ++ moreItems (.lines width) level rest) := by
  induction rest generalizing item with
  | nil => simp [prettyItems, moreItems, h]
  | cons next rest ih =>
    obtain ⟨hitem, hrest⟩ := List.forall_mem_cons.1 h
    simp [prettyItems, moreItems, hitem, ih hrest, Spacing.lines]

theorem prettyMembers_eq {width level : Nat} {name : String} {value : Json}
    {rest : List (String × Json)}
    (h : ∀ other ∈ (name, value) :: rest,
      prettyChars width level other.2 = spaced (.lines width) level other.2) :
    prettyMembers width level ((name, value) :: rest)
      = lineAt width level ++ (quote name ++ ':' :: ' ' :: (spaced (.lines width) level value
        ++ moreMembers (.lines width) level rest)) := by
  induction rest generalizing name value with
  | nil => simp [prettyMembers, moreMembers, h (name, value)]
  | cons next rest ih =>
    obtain ⟨hitem, hrest⟩ := List.forall_mem_cons.1 h
    obtain ⟨next, other⟩ := next
    simp only [prettyMembers, moreMembers, hitem, ih hrest]
    simp [Spacing.lines]

/-- **The text laid out has one part a line.** -/
theorem prettyChars_eq (width level : Nat) (value : Json) :
    prettyChars width level value = spaced (.lines width) level value := by
  induction value using induct generalizing level with
  | null | number _ | string _ => simp [prettyChars, spaced]
  | bool value => cases value <;> simp [prettyChars, spaced]
  | array items ih =>
    cases items with
    | nil => simp [prettyChars, spaced]
    | cons item rest =>
      rw [prettyChars, prettyItems_eq fun other hother => ih other hother (level + 1)]
      simp [spaced, Spacing.lines]
  | object members ih =>
    rcases members with _ | ⟨⟨name, value⟩, rest⟩
    · simp [prettyChars, spaced]
    · rw [prettyChars, prettyMembers_eq fun other hother => ih other hother (level + 1)]
      simp [spaced, Spacing.lines]

/-! ## What comes back

A number is read back as the number its text spells, or as `null` where it has none; all else comes
back as it was, if no name occurs twice in an object. -/

mutual

/-- How many collections are open at once in the text of a value. -/
def depth : Json → Nat
  | array items => itemsDepth items + 1
  | object members => membersDepth members + 1
  | _ => 0

/-- The greatest depth in a list. -/
def itemsDepth : List Json → Nat
  | [] => 0
  | item :: rest => max item.depth (itemsDepth rest)

/-- The greatest depth among the members of an object. -/
def membersDepth : List (String × Json) → Nat
  | [] => 0
  | (_, value) :: rest => max value.depth (membersDepth rest)

end

mutual

/-- **A value as it is read back** from its text. -/
def reread : Json → Json
  | number value =>
    match Machine.numberOf? (numberText value) with
    | some value => number value
    | none => null
  | array items => array (rereadItems items)
  | object members => object (rereadMembers members)
  | value => value

def rereadItems : List Json → List Json
  | [] => []
  | item :: rest => item.reread :: rereadItems rest

def rereadMembers : List (String × Json) → List (String × Json)
  | [] => []
  | (name, value) :: rest => (name, value.reread) :: rereadMembers rest

end

theorem rereadMembers_eq_map (members : List (String × Json)) :
    rereadMembers members = members.map fun member => (member.1, member.2.reread) := by
  induction members with
  | nil => rfl
  | cons member rest ih => rw [rereadMembers, ih, List.map_cons]

theorem rereadItems_eq_map (items : List Json) : rereadItems items = items.map reread := by
  induction items with
  | nil => rfl
  | cons item rest ih => rw [rereadItems, ih, List.map_cons]

theorem lookup_map_snd {α β : Type} (f : α → β) (entries : List (String × α)) (name : String) :
    (entries.map fun entry => (entry.1, f entry.2)).lookup name = (entries.lookup name).map f := by
  induction entries with
  | nil => rfl
  | cons entry rest ih =>
    rw [List.map_cons, List.lookup_cons, List.lookup_cons, ih]
    split <;> rfl

/-! Numbers apart, a value and what comes back answer all questions alike. -/

/-- A number comes back as some number, or as `null`. -/
theorem reread_number {P : Json → Prop} (value : Number) (number : ∀ other, P (.number other))
    (null : P .null) : P (Json.number value).reread := by
  rw [reread]
  split
  · exact number _
  · exact null

@[simp] theorem get?_reread (value : Json) (name : String) :
    value.reread.get? name = (value.get? name).map reread := by
  cases value with
  | number value =>
    exact reread_number (P := fun back => back.get? name = none) value (fun _ => rfl) rfl
  | object members => rw [reread, get?, get?, rereadMembers_eq_map, lookup_map_snd]
  | null | bool _ | string _ | array _ => rfl

@[simp] theorem string?_reread (value : Json) : value.reread.string? = value.string? := by
  cases value with
  | number value =>
    exact reread_number (P := fun back => back.string? = none) value (fun _ => rfl) rfl
  | null | bool _ | string _ | array _ | object _ => rfl

@[simp] theorem items?_reread (value : Json) :
    value.reread.items? = value.items?.map (List.map reread) := by
  cases value with
  | number value =>
    exact reread_number (P := fun back => back.items? = none) value (fun _ => rfl) rfl
  | array items => rw [reread, items?, items?, rereadItems_eq_map, Option.map_some]
  | null | bool _ | string _ | object _ => rfl

@[simp] theorem members?_reread (value : Json) :
    value.reread.members?
      = value.members?.map (List.map fun member => (member.1, member.2.reread)) := by
  cases value with
  | number value =>
    exact reread_number (P := fun back => back.members? = none) value (fun _ => rfl) rfl
  | object members => rw [reread, members?, members?, rereadMembers_eq_map, Option.map_some]
  | null | bool _ | string _ | array _ => rfl

/-- The text of a number spells a number, or says that there is none. -/
def LegibleNumber (value : Number) : Prop :=
  (Machine.numberOf? (numberText value)).isSome = true ∨ numberText value = ['n', 'u', 'l', 'l']

/-- **A value that can be read back**: its numbers are legible, and no name occurs twice in an
object. -/
inductive Legible : Json → Prop
  | null : Legible .null
  | bool (value : Bool) : Legible (.bool value)
  | number {value : Number} : LegibleNumber value → Legible (.number value)
  | string (value : String) : Legible (.string value)
  | array {items : List Json} : (∀ item ∈ items, Legible item) → Legible (.array items)
  | object {members : List (String × Json)} : (members.map Prod.fst).Nodup →
      (∀ member ∈ members, Legible member.2) → Legible (.object members)

/-! ## Reading -/

open Machine

variable (s : Spacing) (level : Nat)

theorem delimited_moreItems (items : List Json) : Delimited (moreItems s level items) := by
  cases items <;> simp [moreItems, Delimited]

theorem delimited_moreMembers (members : List (String × Json)) :
    Delimited (moreMembers s level members) := by
  rcases members with _ | ⟨⟨name, value⟩, rest⟩ <;> simp [moreMembers, Delimited]

/-- What is known of a value while the collection around it is read. -/
def ReadsBack (value : Json) : Prop :=
  ∀ level stack, stack.length ≤ maxDepth → ∀ mode, BeginsValue mode →
    ReadsIff (stack.length + value.depth ≤ maxDepth) ⟨stack, mode⟩ (spaced s level value)
      (complete stack value.reread)

theorem readsBack_of_readsValue {value : Json} (hdepth : value.depth = 0)
    (h : ∀ level stack, ReadsValue stack (spaced s level value) value.reread) :
    ReadsBack s value := by
  intro level stack hstack mode hmode
  exact (h level stack mode hmode).readsIff (by omega)

theorem readsIff_moreItems {items : List Json} (h : ∀ item ∈ items, ReadsBack s item)
    (done : List Json) (stack : List Frame) (hstack : stack.length + 1 ≤ maxDepth) :
    ReadsIff (stack.length + 1 + itemsDepth items ≤ maxDepth) ⟨.array done :: stack, .after⟩
      (moreItems s level items)
      ⟨.array ((rereadItems items).reverse ++ done) :: stack, .after⟩ := by
  induction items generalizing done with
  | nil => exact (Reads.nil _).upTo.readsIff hstack
  | cons item rest ih =>
    obtain ⟨hitem, hrest⟩ := List.forall_mem_cons.1 h
    have hcomma : Reads ⟨.array done :: stack, .after⟩ [','] ⟨.array done :: stack, .nextItem⟩ :=
      .char fun _ => rfl
    have hgap := Reads.blanks
      (skipsBlanks_of_beginsValue (.inr (.inr rfl)) (.array done :: stack)) (s.gap_blank level)
    have hread := hitem level (.array done :: stack) hstack .nextItem (.inr (.inr rfl))
    have hmore := ih hrest (item.reread :: done)
    have hall := hcomma.appendIff (hgap.appendIff
      (hread.append (delimited_moreItems s level rest) hmore))
    rw [itemsDepth, ← Nat.add_max_add_left, Nat.max_le, rereadItems, List.reverse_cons,
      List.append_assoc]
    exact hall

/-- One member, with the blanks before it. -/
theorem readsIff_member {value : Json} (h : ReadsBack s value) {mode : Mode}
    (hmode : BeginsName mode) (done : List (String × Json)) (old : String) {name : String}
    (hname : name ∉ done.map Prod.fst) (stack : List Frame) (hstack : stack.length + 1 ≤ maxDepth) :
    ReadsIff (stack.length + 1 + value.depth ≤ maxDepth) ⟨.object done old :: stack, mode⟩
      (s.gap level ++ (quote name ++ ':' :: (s.colon ++ spaced s level value)))
      ⟨.object (done ++ [(name, value.reread)]) name :: stack, .after⟩ := by
  have hgap := Reads.blanks
    (skipsBlanks_of_beginsName hmode (.object done old :: stack)) (s.gap_blank level)
  have hcolon : Reads ⟨.object done name :: stack, .colon⟩ [':']
      ⟨.object done name :: stack, .value⟩ := .char fun _ => rfl
  have hblank := Reads.blanks
    (skipsBlanks_of_beginsValue (.inl rfl) (.object done name :: stack)) s.colon_blank
  have hvalue := h level (.object done name :: stack) hstack .value (.inl rfl)
  rw [complete, putEntry_of_notMem _ hname] at hvalue
  exact hgap.appendIff ((reads_name hmode done old stack name).appendIff
    (hcolon.appendIff (hblank.appendIff hvalue)))

theorem readsIff_moreMembers {members : List (String × Json)}
    (h : ∀ member ∈ members, ReadsBack s member.2) (done : List (String × Json)) (old : String)
    (hnames : (done.map Prod.fst ++ members.map Prod.fst).Nodup) (stack : List Frame)
    (hstack : stack.length + 1 ≤ maxDepth) :
    ∃ last, ReadsIff (stack.length + 1 + membersDepth members ≤ maxDepth)
      ⟨.object done old :: stack, .after⟩ (moreMembers s level members)
      ⟨.object (done ++ rereadMembers members) last :: stack, .after⟩ := by
  induction members generalizing done old with
  | nil =>
    refine ⟨old, ?_⟩
    rw [rereadMembers, List.append_nil]
    exact (Reads.nil _).upTo.readsIff hstack
  | cons member rest ih =>
    obtain ⟨name, value⟩ := member
    obtain ⟨hvalue, hrest⟩ := List.forall_mem_cons.1 h
    have hname : name ∉ done.map Prod.fst := by
      intro hmem
      exact (List.nodup_append.1 hnames).2.2 name hmem name (by simp) rfl
    have hcomma : Reads ⟨.object done old :: stack, .after⟩ [',']
        ⟨.object done old :: stack, .nextName⟩ := .char fun _ => rfl
    have hmember := readsIff_member s level hvalue (.inr rfl) done old hname stack hstack
    have hnames' : ((done ++ [(name, value.reread)]).map Prod.fst ++ rest.map Prod.fst).Nodup := by
      simpa using hnames
    obtain ⟨last, hmore⟩ := ih hrest _ name hnames'
    refine ⟨last, ?_⟩
    have hall := hcomma.appendIff (hmember.append (delimited_moreMembers s level rest) hmore)
    rw [membersDepth, ← Nat.add_max_add_left, Nat.max_le]
    simpa [moreMembers, rereadMembers] using hall

/-! ## The whole text -/

/-- The innermost collection, finished. -/
def Frame.value : Frame → Json
  | .array items => .array items.reverse
  | .object members _ => .object members

/-- The bracket behind a collection. -/
def Frame.bracket : Frame → Char
  | .array _ => ']'
  | .object .. => '\x7d'

theorem delimited_close (frame : Frame) : Delimited (s.gap level ++ [frame.bracket]) := by
  cases hgap : s.gap level with
  | nil => cases frame <;> simp [Delimited, Frame.bracket]
  | cons c rest =>
    have hblank := s.gap_blank level c (by simp [hgap])
    simp [Delimited, hblank]

theorem reads_close (frame : Frame) (stack : List Frame) :
    Reads ⟨frame :: stack, .after⟩ (s.gap level ++ [frame.bracket])
      (complete stack frame.value) := by
  have hblanks : SkipsBlanks ⟨frame :: stack, .after⟩ := by
    intro offset c hc
    simp [step, afterValue, hc]
  refine (Reads.blanks hblanks (s.gap_blank level)).append (.char fun offset => ?_)
  cases frame <;> rfl

/-- A collection is opened if not too many are open already. -/
theorem readsIff_collection {mode next : Mode} (hmode : BeginsValue mode) {stack : List Frame}
    {c : Char} {frame : Frame} (hspace : isSpace c = false) (hclose : c ≠ ']')
    (hbegin : ∀ offset, beginValue stack offset c = openFrame stack frame next offset)
    {fits : Prop} (hroom : fits → stack.length < maxDepth) {text : List Char} {last : Machine}
    (h : stack.length < maxDepth → ReadsIff fits ⟨frame :: stack, next⟩ text last) :
    ReadsIff fits ⟨stack, mode⟩ (c :: text) last := by
  have hstep (offset : Nat) : step ⟨stack, mode⟩ offset c = openFrame stack frame next offset :=
    (step_beginsValue hmode stack offset hspace hclose).trans (hbegin offset)
  by_cases hlength : stack.length < maxDepth
  · have hopen : Reads ⟨stack, mode⟩ [c] ⟨frame :: stack, next⟩ :=
      .char fun offset => by rw [hstep, openFrame, if_pos hlength]
    exact hopen.appendIff (h hlength)
  · refine ⟨fun hfits => absurd (hroom hfits) hlength, fun _ offset rest _ => ⟨offset + 1, ?_⟩⟩
    rw [List.cons_append, run, hstep, openFrame, if_neg hlength]

theorem readsBack_array {items : List Json} (h : ∀ item ∈ items, ReadsBack s item) :
    ReadsBack s (.array items) := by
  intro level stack _ mode hmode
  rw [depth, ← Nat.add_assoc, Nat.add_right_comm]
  cases items with
  | nil =>
    refine readsIff_collection hmode rfl (by decide) (fun _ => rfl) (by omega) fun hroom => ?_
    exact (Reads.char fun _ => rfl).upTo.readsIff hroom
  | cons item rest =>
    obtain ⟨hitem, hrest⟩ := List.forall_mem_cons.1 h
    refine readsIff_collection hmode rfl (by decide) (fun _ => rfl) (by omega) fun hroom => ?_
    have hgap := Reads.blanks (skipsBlanks_of_beginsValue (.inr (.inl rfl)) (.array [] :: stack))
      (s.gap_blank (level + 1))
    have hfirst := hitem (level + 1) (.array [] :: stack) hroom .firstItem (.inr (.inl rfl))
    have hmore := readsIff_moreItems s (level + 1) hrest [item.reread] stack hroom
    let frame := Frame.array ((rereadItems rest).reverse ++ [item.reread])
    have hclose := reads_close s level frame stack
    rw [Frame.value, List.reverse_append, List.reverse_reverse] at hclose
    rw [itemsDepth, ← Nat.add_max_add_left, Nat.max_le]
    have hdelimited := delimited_close s level frame
    exact hgap.appendIff (hfirst.append
      (delimited_append (delimited_moreItems s _ rest) hdelimited)
      (hmore.appendReads hdelimited hclose))

theorem readsBack_object {members : List (String × Json)} (hnames : (members.map Prod.fst).Nodup)
    (h : ∀ member ∈ members, ReadsBack s member.2) : ReadsBack s (.object members) := by
  intro level stack _ mode hmode
  rw [depth, ← Nat.add_assoc, Nat.add_right_comm]
  rcases members with _ | ⟨⟨name, value⟩, rest⟩
  · refine readsIff_collection hmode rfl (by decide) (fun _ => rfl) (by omega) fun hroom => ?_
    exact (Reads.char fun _ => rfl).upTo.readsIff hroom
  · obtain ⟨hvalue, hrest⟩ := List.forall_mem_cons.1 h
    refine readsIff_collection hmode rfl (by decide) (fun _ => rfl) (by omega) fun hroom => ?_
    have hnew : name ∉ ([] : List (String × Json)).map Prod.fst := List.not_mem_nil
    have hfirst := readsIff_member s (level + 1) hvalue (.inl rfl) [] "" hnew stack hroom
    obtain ⟨last, hmore⟩ := readsIff_moreMembers s (level + 1) hrest [(name, value.reread)] name
      hnames stack hroom
    let frame := Frame.object ((name, value.reread) :: rereadMembers rest) last
    have hdelimited := delimited_close s level frame
    have hall := hfirst.append (delimited_append (delimited_moreMembers s _ rest) hdelimited)
      (hmore.appendReads hdelimited (reads_close s level frame stack))
    rw [membersDepth, ← Nat.add_max_add_left, Nat.max_le]
    simpa [frame, Frame.bracket, Frame.value, reread, rereadMembers] using hall

/-- **What was written is read back** if it is not nested too deep, and refused otherwise. -/
theorem readsBack_of_legible {value : Json} (h : value.Legible) : ReadsBack s value := by
  induction h with
  | null => exact readsBack_of_readsValue s rfl fun _ stack => readsValue_null stack
  | bool value =>
    refine readsBack_of_readsValue s rfl fun _ stack => ?_
    cases value
    · exact readsValue_false stack
    · exact readsValue_true stack
  | string value => exact readsBack_of_readsValue s rfl fun _ stack => readsValue_string stack value
  | @number value hlegible =>
    refine readsBack_of_readsValue s rfl fun _ stack => ?_
    rw [spaced, reread]
    cases hnumber : numberOf? (numberText value) with
    | some other => exact readsValue_number hnumber stack
    | none =>
      rcases hlegible with hsome | hnull
      · simp [hnumber] at hsome
      · rw [hnull]
        exact readsValue_null stack
  | array _ ih => exact readsBack_array s ih
  | object hnames _ ih => exact readsBack_object s hnames ih

/-- **The reader on a text that is not nested too deep.** -/
theorem run_spaced {value : Json} (h : value.Legible) (hdepth : value.depth ≤ maxDepth)
    (offset : Nat) : start.run offset (spaced s level value) = .ok value.reread := by
  have hback := readsBack_of_legible s h level [] (Nat.zero_le _) .value (.inl rfl)
  obtain ⟨offset', hrun⟩ := hback.reads (by simpa using hdepth) offset [] (by simp [Delimited])
  rw [List.append_nil] at hrun
  rw [start, hrun]
  rfl

/-- …and on any other. -/
theorem run_spaced_tooDeep {value : Json} (h : value.Legible) (hdepth : maxDepth < value.depth)
    (offset : Nat) :
    ∃ offset', start.run offset (spaced s level value) = .error (.tooDeep, offset') := by
  have hback := readsBack_of_legible s h level [] (Nat.zero_le _) .value (.inl rfl)
  obtain ⟨offset', hrun⟩ :=
    hback.refuses (by simpa using hdepth) offset [] (by simp [Delimited])
  rw [List.append_nil] at hrun
  exact ⟨offset', hrun⟩

end RamlExpress.Json
