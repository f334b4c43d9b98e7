/-!
# OrderedMap — maps from names that remember the order of arrival

A name keeps the place it got when it was first put in, and holds the value put in last.  The
operations on lists of entries serve JSON objects and file systems as well; `OrderedMap` adds that
no name occurs twice.

* `OrderedMap.keys_insert` — inserting adds a name at the end, or no name at all.
* `OrderedMap.get?_insert` — the inserted name holds the inserted value, all others are untouched.
-/

namespace RamlExpress

variable {κ α : Type}

/-- Puts a value under a key: in the place the key has, or else at the end. -/
def putEntry [DecidableEq κ] (key : κ) (value : α) : List (κ × α) → List (κ × α)
  | [] => [(key, value)]
  | (k, v) :: rest =>
    if k = key then (k, value) :: rest else (k, v) :: putEntry key value rest

/-- Takes a name out by moving the last entry into its place. -/
def swapRemove (name : String) : List (String × α) → List (String × α)
  | [] => []
  | (k, v) :: rest =>
    if k = name then
      match rest.getLast? with
      | none => []
      | some last => last :: rest.dropLast
    else (k, v) :: swapRemove name rest

/-- Putting keeps the keys in place and adds a new one at the end. -/
theorem keys_putEntry [DecidableEq κ] (key : κ) (value : α) (entries : List (κ × α)) :
    (putEntry key value entries).map Prod.fst =
      if key ∈ entries.map Prod.fst then entries.map Prod.fst
      else entries.map Prod.fst ++ [key] := by
  induction entries with
  | nil => simp [putEntry]
  | cons entry rest ih =>
    obtain ⟨k, v⟩ := entry
    by_cases h : k = key
    · simp [putEntry, h]
    · have h' : ¬key = k := fun e => h e.symm
      by_cases hm : key ∈ rest.map Prod.fst
      · simp only [putEntry, h, if_false, List.map_cons, List.mem_cons, h', false_or, ih, hm,
          if_true]
      · simp only [putEntry, h, if_false, List.map_cons, List.mem_cons, h', false_or, ih, hm,
          List.cons_append]

/-- The key just put holds the value just put, and every other key what it held. -/
theorem lookup_putEntry [DecidableEq κ] [BEq κ] [LawfulBEq κ] (key other : κ) (value : α)
    (entries : List (κ × α)) :
    (putEntry key value entries).lookup other =
      if other = key then some value else entries.lookup other := by
  induction entries with
  | nil =>
    by_cases h : other = key
    · simp [putEntry, h]
    · simp [putEntry, List.lookup_cons, h, beq_eq_false_iff_ne.2 h]
  | cons entry rest ih =>
    obtain ⟨k, v⟩ := entry
    by_cases h : k = key
    · subst h
      by_cases ho : other = k
      · simp [putEntry, ho]
      · simp [putEntry, List.lookup_cons, ho, beq_eq_false_iff_ne.2 ho]
    · by_cases ho : other = k
      · subst ho
        simp [putEntry, h]
      · simp [putEntry, h, List.lookup_cons, beq_eq_false_iff_ne.2 ho, ih]

/-- A map from names, its entries in the order in which the names first came. -/
structure OrderedMap (α : Type) where
  entries : List (String × α)
  nodup_keys : (entries.map Prod.fst).Nodup
deriving Repr

namespace OrderedMap

/-- The map without entries. -/
def empty : OrderedMap α := ⟨[], by simp⟩

instance : Inhabited (OrderedMap α) := ⟨empty⟩

/-- The names, in order. -/
def keys (m : OrderedMap α) : List String := m.entries.map Prod.fst

/-- The number of names. -/
def size (m : OrderedMap α) : Nat := m.entries.length

/-- The map has no entry. -/
def isEmpty (m : OrderedMap α) : Bool := m.entries.isEmpty

/-- The value under a name. -/
def get? (m : OrderedMap α) (name : String) : Option α := m.entries.lookup name

/-- The name is in the map. -/
def contains (m : OrderedMap α) (name : String) : Bool := (m.get? name).isSome

/-- Puts a value under a name: in the place the name has, or else at the end. -/
def insert (m : OrderedMap α) (name : String) (value : α) : OrderedMap α where
  entries := putEntry name value m.entries
  nodup_keys := by
    rw [keys_putEntry]
    split
    · exact m.nodup_keys
    · rename_i h
      rw [List.nodup_append]
      refine ⟨m.nodup_keys, by simp, fun a ha b hb hab => ?_⟩
      rw [List.mem_singleton] at hb
      exact h (hb ▸ hab ▸ ha)

@[ext] theorem ext {m n : OrderedMap α} (h : m.entries = n.entries) : m = n := by
  cases m
  cases n
  cases h
  rfl

@[simp] theorem keys_empty : (empty : OrderedMap α).keys = [] := rfl

@[simp] theorem get?_empty (name : String) : (empty : OrderedMap α).get? name = none := rfl

/-- **Inserting adds a name at the end, or no name at all.** -/
theorem keys_insert (m : OrderedMap α) (name : String) (value : α) :
    (m.insert name value).keys = if name ∈ m.keys then m.keys else m.keys ++ [name] :=
  keys_putEntry name value m.entries

/-- **The inserted name holds the inserted value**, and all others what they held. -/
theorem get?_insert (m : OrderedMap α) (name other : String) (value : α) :
    (m.insert name value).get? other = if other = name then some value else m.get? other :=
  lookup_putEntry name other value m.entries

end OrderedMap

end RamlExpress
