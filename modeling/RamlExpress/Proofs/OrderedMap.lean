import RamlExpress.OrderedMap

/-!
# Proofs/OrderedMap — first place, last value

Entries put into an ordered map one after the other: a name stands where it came first and holds
what it was given last.

* `OrderedMap.keys_insertAll` — the names, in the order of their first occurrence.
* `OrderedMap.get?_insertAll` — a name holds the value of its last occurrence.
* `swapRemove_perm` — taking a name out changes the order and nothing else.
-/

namespace RamlExpress

variable {α β : Type}

/-! ## Lists of entries -/

theorem eraseDups_eq_self {names : List String} (h : names.Nodup) : names.eraseDups = names := by
  induction names with
  | nil => rfl
  | cons name rest ih =>
    obtain ⟨hname, hrest⟩ := List.nodup_cons.1 h
    have hfilter : rest.filter (fun other => !other == name) = rest := by
      refine List.filter_eq_self.2 fun other hother => ?_
      simpa using fun heq : other = name => hname (heq ▸ hother)
    rw [List.eraseDups_cons, hfilter, ih hrest]

/-- A repetition behind names that have it already does not count. -/
theorem eraseDups_append_cons_of_mem {names : List String} {name : String} (h : name ∈ names)
    (rest : List String) : (names ++ name :: rest).eraseDups = (names ++ rest).eraseDups := by
  rw [List.eraseDups_append, List.eraseDups_append, List.removeAll, List.removeAll,
    List.filter_cons_of_neg (by simpa using h)]

/-- The last entry under a name is the first from behind. -/
theorem lookup_reverse_eq_some_iff {entries : List (String × α)} {name : String} {value : α} :
    entries.reverse.lookup name = some value
      ↔ ∃ before after, entries = before ++ (name, value) :: after
        ∧ name ∉ after.map Prod.fst := by
  rw [List.lookup_eq_some_iff]
  constructor
  · rintro ⟨front, back, hsplit, hfront⟩
    refine ⟨back.reverse, front.reverse, ?_, ?_⟩
    · rw [← List.reverse_reverse entries, hsplit]
      simp
    · rw [List.mem_map]
      rintro ⟨entry, hentry, rfl⟩
      simpa using hfront entry (List.mem_reverse.1 hentry)
  · rintro ⟨before, after, rfl, hafter⟩
    refine ⟨after.reverse, before.reverse, by simp, fun entry hentry => ?_⟩
    have hne : name ≠ entry.1 := fun heq =>
      hafter (heq ▸ List.mem_map_of_mem (List.mem_reverse.1 hentry))
    simpa using hne

/-- …and, where the entries come from other things, it comes from the last thing that gives one
under that name. -/
theorem lookup_reverse_filterMap_eq_some_iff {give : β → Option (String × α)}
    {items : List β} {name : String} {value : α} :
    (items.filterMap give).reverse.lookup name = some value
      ↔ ∃ before item after, items = before ++ item :: after ∧ give item = some (name, value)
        ∧ ∀ later ∈ after, ∀ other, give later ≠ some (name, other) := by
  rw [lookup_reverse_eq_some_iff]
  constructor
  · rintro ⟨front, back, hsplit, hback⟩
    obtain ⟨before, rest, rfl, -, hrest⟩ := List.filterMap_eq_append_iff.1 hsplit
    obtain ⟨skipped, item, after, rfl, -, hitem, rfl⟩ := List.filterMap_eq_cons_iff.1 hrest
    refine ⟨before ++ skipped, item, after, by simp, hitem, fun later hlater other heq => hback ?_⟩
    exact List.mem_map.2 ⟨_, List.mem_filterMap.2 ⟨later, hlater, heq⟩, rfl⟩
  · rintro ⟨before, item, after, rfl, hitem, hafter⟩
    refine ⟨before.filterMap give, after.filterMap give, by simp [hitem], fun hmem => ?_⟩
    obtain ⟨⟨_, other⟩, hentry, rfl⟩ := List.mem_map.1 hmem
    obtain ⟨later, hlater, heq⟩ := List.mem_filterMap.1 hentry
    exact hafter later hlater other heq

/-- A name that is new goes to the end. -/
theorem putEntry_of_notMem {name : String} (value : α) {entries : List (String × α)}
    (h : name ∉ entries.map Prod.fst) :
    putEntry name value entries = entries ++ [(name, value)] := by
  induction entries with
  | nil => rfl
  | cons entry rest ih =>
    obtain ⟨hname, hrest⟩ := not_or.1 (mt List.mem_cons.2 h)
    rw [putEntry, if_neg (Ne.symm hname), ih hrest, List.cons_append]

/-- A name that is there keeps its place. -/
theorem putEntry_of_mem {name : String} (value : α) {entries : List (String × α)}
    (h : (entries.map Prod.fst).Nodup) (hmem : name ∈ entries.map Prod.fst) :
    putEntry name value entries
      = entries.map fun entry => if entry.1 = name then (name, value) else entry := by
  induction entries with
  | nil => contradiction
  | cons entry rest ih =>
    obtain ⟨k, v⟩ := entry
    obtain ⟨hk, hrest⟩ := List.nodup_cons.1 h
    by_cases hname : k = name
    · subst hname
      have hself : rest.map (fun entry => if entry.1 = k then (k, value) else entry) = rest := by
        have hne : ∀ entry ∈ rest, (if entry.1 = k then (k, value) else entry) = entry :=
          fun entry hentry => if_neg fun heq => hk (List.mem_map.2 ⟨entry, hentry, heq⟩)
        rw [List.map_congr_left hne, List.map_id']
      rw [putEntry, if_pos rfl, List.map_cons, if_pos rfl, hself]
    · rw [putEntry, if_neg hname, List.map_cons, if_neg hname,
        ih hrest ((List.mem_cons.1 hmem).resolve_left (Ne.symm hname))]

theorem mem_putEntry {name : String} {value : α} {entries : List (String × α)}
    {entry : String × α} (h : entry ∈ putEntry name value entries) :
    entry = (name, value) ∨ entry ∈ entries := by
  induction entries with
  | nil => exact .inl (List.mem_singleton.1 h)
  | cons first rest ih =>
    rw [putEntry] at h
    split at h
    · rename_i hname
      rcases List.mem_cons.1 h with rfl | hrest
      · exact .inl (by rw [hname])
      · exact .inr (List.mem_cons_of_mem _ hrest)
    · rcases List.mem_cons.1 h with rfl | hrest
      · exact .inr List.mem_cons_self
      · exact (ih hrest).imp_right (List.mem_cons_of_mem _)

/-- Values may be changed before they are put or after. -/
theorem putEntry_map (give : String → α → β) (name : String) (value : α)
    (entries : List (String × α)) :
    putEntry name (give name value) (entries.map fun entry => (entry.1, give entry.1 entry.2))
      = (putEntry name value entries).map fun entry => (entry.1, give entry.1 entry.2) := by
  induction entries with
  | nil => rfl
  | cons entry rest ih =>
    by_cases h : entry.1 = name
    · simp [putEntry, h]
    · simp [putEntry, h, ih]

/-- Without repeated names, an entry is what its name looks up. -/
theorem mem_iff_lookup_eq_some {entries : List (String × α)} (h : (entries.map Prod.fst).Nodup)
    {name : String} {value : α} : (name, value) ∈ entries ↔ entries.lookup name = some value := by
  induction entries with
  | nil => simp
  | cons entry rest ih =>
    obtain ⟨k, v⟩ := entry
    obtain ⟨hk, hrest⟩ := List.nodup_cons.1 h
    rw [List.mem_cons, ih hrest, List.lookup_cons]
    by_cases h : name = k
    · subst h
      have hnone : rest.lookup name ≠ some value := fun hsome =>
        hk (List.mem_map.2 ⟨_, (ih hrest).2 hsome, rfl⟩)
      simp [hnone, eq_comm]
    · simp [h, beq_eq_false_iff_ne.2 h]

/-- A value that a name has already changes nothing. -/
theorem putEntry_eq_self {entries : List (String × α)} (h : (entries.map Prod.fst).Nodup)
    {name : String} {value : α} (hlookup : entries.lookup name = some value) :
    putEntry name value entries = entries := by
  have hmem := (mem_iff_lookup_eq_some h).2 hlookup
  rw [putEntry_of_mem value h (List.mem_map_of_mem hmem)]
  refine (List.map_congr_left fun entry hentry => ?_).trans (List.map_id _)
  split
  · rename_i hname
    have hentry' := (mem_iff_lookup_eq_some h).1 (show (entry.1, entry.2) ∈ entries from hentry)
    rw [hname, hlookup] at hentry'
    rw [← hname, Option.some.inj hentry']
    rfl
  · rfl

/-- …so the order does not matter. -/
theorem lookup_eq_of_perm {entries others : List (String × α)}
    (h : (entries.map Prod.fst).Nodup) (hperm : entries.Perm others) (name : String) :
    entries.lookup name = others.lookup name := by
  have hothers := (hperm.map Prod.fst).nodup_iff.1 h
  refine Option.ext fun value => ?_
  rw [← mem_iff_lookup_eq_some h, ← mem_iff_lookup_eq_some hothers, hperm.mem_iff]

/-- **Taking a name out changes the order of the others and nothing else.** -/
theorem swapRemove_perm {entries : List (String × α)} (h : (entries.map Prod.fst).Nodup)
    (name : String) :
    (swapRemove name entries).Perm (entries.filter fun entry => entry.1 ≠ name) := by
  induction entries with
  | nil => exact .nil
  | cons entry rest ih =>
    obtain ⟨k, v⟩ := entry
    obtain ⟨hk, hrest⟩ := List.nodup_cons.1 h
    by_cases hname : k = name
    · subst hname
      have hfilter : rest.filter (fun entry => entry.1 ≠ k) = rest := by
        refine List.filter_eq_self.2 fun entry hentry => ?_
        simpa using fun heq : entry.1 = k => hk (List.mem_map.2 ⟨entry, hentry, heq⟩)
      rw [List.filter_cons_of_neg (by simp), hfilter, swapRemove, if_pos rfl]
      cases hlast : rest.getLast? with
      | none => rw [List.getLast?_eq_none_iff.1 hlast]
      | some last =>
        obtain ⟨front, rfl⟩ := List.getLast?_eq_some_iff.1 hlast
        rw [List.dropLast_concat]
        exact (List.perm_append_singleton last front).symm
    · rw [swapRemove, if_neg hname, List.filter_cons_of_pos (by simpa using hname)]
      exact (ih hrest).cons _

theorem nodup_keys_swapRemove {entries : List (String × α)} (h : (entries.map Prod.fst).Nodup)
    (name : String) : ((swapRemove name entries).map Prod.fst).Nodup :=
  ((swapRemove_perm h name).map Prod.fst).nodup_iff.2 (h.sublist (List.filter_sublist.map Prod.fst))

theorem lookup_swapRemove {entries : List (String × α)} (h : (entries.map Prod.fst).Nodup)
    (name other : String) :
    (swapRemove name entries).lookup other
      = if other = name then none else entries.lookup other := by
  rw [lookup_eq_of_perm (nodup_keys_swapRemove h name) (swapRemove_perm h name)]
  clear h
  induction entries with
  | nil => simp
  | cons entry rest ih =>
    by_cases hname : entry.1 = name
    · rw [List.filter_cons_of_neg (by simpa using hname), ih, List.lookup_cons, hname]
      split
      · rfl
      · rename_i hne
        rw [beq_eq_false_iff_ne.2 hne]
    · rw [List.filter_cons_of_pos (by simpa using hname), List.lookup_cons, List.lookup_cons, ih]
      by_cases hother : other = entry.1
      · simp [hother, hname]
      · simp [beq_eq_false_iff_ne.2 hother]

namespace OrderedMap

theorem mem_entries_iff {m : OrderedMap α} {name : String} {value : α} :
    (name, value) ∈ m.entries ↔ m.get? name = some value :=
  mem_iff_lookup_eq_some m.nodup_keys

theorem get?_eq_none_iff {m : OrderedMap α} {name : String} :
    m.get? name = none ↔ name ∉ m.keys := by
  rw [get?, List.lookup_eq_none_iff, keys, List.mem_map]
  simp only [bne_iff_ne, not_exists, not_and]
  exact forall₂_congr fun _ _ => ne_comm

theorem entries_insert (m : OrderedMap α) (name : String) (value : α) :
    (m.insert name value).entries = putEntry name value m.entries := rfl

/-- Puts entries into a map, one after the other. -/
def insertAll (m : OrderedMap α) (entries : List (String × α)) : OrderedMap α :=
  entries.foldl (fun m entry => m.insert entry.1 entry.2) m

@[simp] theorem insertAll_nil (m : OrderedMap α) : m.insertAll [] = m := rfl

@[simp] theorem insertAll_cons (m : OrderedMap α) (entry : String × α)
    (rest : List (String × α)) :
    m.insertAll (entry :: rest) = (m.insert entry.1 entry.2).insertAll rest := rfl

/-- **Names stand in the order of their first occurrence.** -/
theorem keys_insertAll (m : OrderedMap α) (entries : List (String × α)) :
    (m.insertAll entries).keys = (m.keys ++ entries.map Prod.fst).eraseDups := by
  induction entries generalizing m with
  | nil =>
    rw [List.map_nil, List.append_nil]
    exact (eraseDups_eq_self m.nodup_keys).symm
  | cons entry rest ih =>
    rw [insertAll_cons, ih, keys_insert, List.map_cons]
    split
    · rename_i hmem
      exact (eraseDups_append_cons_of_mem hmem _).symm
    · rw [List.append_assoc, List.singleton_append]

/-- **A name holds the value of its last occurrence.** -/
theorem get?_insertAll (m : OrderedMap α) (entries : List (String × α)) (name : String) :
    (m.insertAll entries).get? name = (entries.reverse.lookup name).or (m.get? name) := by
  induction entries generalizing m with
  | nil => rfl
  | cons entry rest ih =>
    obtain ⟨k, v⟩ := entry
    rw [insertAll_cons, ih, get?_insert, List.reverse_cons, List.lookup_append, Option.or_assoc]
    by_cases h : name = k
    · simp [h]
    · simp [List.lookup_cons, h, beq_eq_false_iff_ne.2 h]

/-- The map of some entries. -/
def ofEntries (entries : List (String × α)) : OrderedMap α := empty.insertAll entries

theorem entries_insertAll (m : OrderedMap α) (entries : List (String × α)) :
    (m.insertAll entries).entries
      = entries.foldl (fun done entry => putEntry entry.1 entry.2 done) m.entries := by
  induction entries generalizing m with
  | nil => rfl
  | cons entry rest ih => rw [insertAll_cons, ih, List.foldl_cons, entries_insert]

theorem keys_ofEntries (steps : List (String × α)) :
    (ofEntries steps).keys = (steps.map Prod.fst).eraseDups := by
  rw [ofEntries, keys_insertAll, keys_empty, List.nil_append]

theorem mem_keys_ofEntries (steps : List (String × α)) (name : String) :
    name ∈ (ofEntries steps).keys ↔ name ∈ steps.map Prod.fst := by
  rw [keys_ofEntries, List.mem_eraseDups]

theorem get?_ofEntries (entries : List (String × α)) (name : String) :
    (ofEntries entries).get? name = entries.reverse.lookup name := by
  rw [ofEntries, get?_insertAll, get?_empty, Option.or_none]

/-- An entry of the map is one of the entries put into it. -/
theorem mem_of_mem_ofEntries {entries : List (String × α)} {entry : String × α}
    (h : entry ∈ (ofEntries entries).entries) : entry ∈ entries := by
  obtain ⟨name, value⟩ := entry
  rw [mem_entries_iff, get?_ofEntries, lookup_reverse_eq_some_iff] at h
  obtain ⟨before, after, rfl, -⟩ := h
  simp

/-- **Entries without repeated names stay as they are.** -/
theorem entries_ofEntries {entries : List (String × α)} (h : (entries.map Prod.fst).Nodup) :
    (ofEntries entries).entries = entries := by
  have hput : ∀ done rest : List (String × α), (done.map Prod.fst ++ rest.map Prod.fst).Nodup →
      rest.foldl (fun done entry => putEntry entry.1 entry.2 done) done = done ++ rest := by
    intro done rest hnodup
    induction rest generalizing done with
    | nil => simp
    | cons entry rest ih =>
      have hnew : entry.1 ∉ done.map Prod.fst := fun hmem =>
        (List.nodup_append.1 hnodup).2.2 _ hmem _ (by simp) rfl
      rw [List.foldl_cons, putEntry_of_notMem _ hnew, ih _ (by simpa using hnodup)]
      simp
  rw [ofEntries, entries_insertAll]
  exact hput [] entries h

/-- Values may be changed before they go into a map or after. -/
theorem entries_ofEntries_map (give : String → α → β) (entries : List (String × α)) :
    (ofEntries (entries.map fun entry => (entry.1, give entry.1 entry.2))).entries
      = (ofEntries entries).entries.map fun entry => (entry.1, give entry.1 entry.2) := by
  have hput : ∀ done : List (String × α),
      (entries.map fun entry => (entry.1, give entry.1 entry.2)).foldl
          (fun done entry => putEntry entry.1 entry.2 done)
          (done.map fun entry => (entry.1, give entry.1 entry.2))
        = (entries.foldl (fun done entry => putEntry entry.1 entry.2 done) done).map
          fun entry => (entry.1, give entry.1 entry.2) := by
    induction entries with
    | nil => exact fun done => rfl
    | cons entry rest ih =>
      intro done
      simp only [List.map_cons, List.foldl_cons, putEntry_map, ih]
  rw [ofEntries, entries_insertAll, ofEntries, entries_insertAll]
  exact hput []

end OrderedMap

end RamlExpress
