import RamlExpress.Proofs.Yaml.WellFormed

/-!
# Proofs/Yaml/Nesting — how deep collections nest

A value that is read from a text nests at most as deep as is allowed, whatever its aliases stand
for.  So a value that nests deeper is the value of no text.
-/

namespace RamlExpress.Yaml.Value

mutual

/-- **How deep collections nest** in a value. -/
def nesting : Value → Nat
  | sequence items => nestingItems items + 1
  | mapping entries => nestingEntries entries + 1
  | tagged _ value => nesting value
  | null | bool _ | number _ | string _ => 0

/-- How deep collections nest in some items. -/
def nestingItems : List Value → Nat
  | [] => 0
  | item :: rest => max (nesting item) (nestingItems rest)

/-- How deep collections nest in some entries. -/
def nestingEntries : List (Value × Value) → Nat
  | [] => 0
  | (key, value) :: rest => max (max (nesting key) (nesting value)) (nestingEntries rest)

end

theorem nesting_of_resolve {tag : Option Tag} {isPlain : Bool} {text : String} {value : Value}
    (h : Scalar.resolve tag isPlain text = .ok value) : value.nesting = 0 := by
  have hscalars : HoldsOfScalars (·.nesting = 0) :=
    ⟨rfl, fun _ => rfl, fun _ => rfl, fun _ => rfl, fun _ _ hinner => hinner⟩
  exact hscalars.of_resolve h

theorem nesting_inTag (tag : Option Tag) (value : Value) :
    (inTag tag value).nesting = value.nesting := by
  unfold inTag
  split <;> rfl

theorem nestingItems_le_of_mapM {nodes : List (Nat × LinkedNode)} {depth : Nat}
    (ih : ∀ {node value}, ofNode nodes depth node = .ok value → value.nesting ≤ depth)
    {items : List LinkedNode} {values : List Value}
    (h : items.mapM (ofNode nodes depth) = .ok values) : nestingItems values ≤ depth := by
  induction items generalizing values with
  | nil =>
    obtain rfl := Except.ok.inj h
    exact Nat.zero_le _
  | cons item rest ihRest =>
    simp only [List.mapM_cons, bind_eq_ok_iff] at h
    obtain ⟨value, hvalue, others, hothers, hvalues⟩ := h
    obtain rfl := Except.ok.inj hvalues
    exact Nat.max_le.2 ⟨ih hvalue, ihRest hothers⟩

theorem nestingEntries_append (front back : List (Value × Value)) :
    nestingEntries (front ++ back) = max (nestingEntries front) (nestingEntries back) := by
  induction front with
  | nil => simp [nestingEntries]
  | cons entry rest ih =>
    obtain ⟨key, value⟩ := entry
    simp only [List.cons_append, nestingEntries, ih, Nat.max_assoc]

theorem nestingEntries_le_of_addEntry {depth : Nat} {entries more : List (Value × Value)}
    {key value : Value} (hentries : nestingEntries entries ≤ depth) (hkey : key.nesting ≤ depth)
    (hvalue : value.nesting ≤ depth) (h : addEntry entries key value = .ok more) :
    nestingEntries more ≤ depth := by
  unfold addEntry at h
  split at h
  · contradiction
  · obtain rfl := Except.ok.inj h
    rw [nestingEntries_append]
    refine Nat.max_le.2 ⟨hentries, ?_⟩
    simpa [nestingEntries] using ⟨hkey, hvalue⟩

theorem nestingEntries_le_of_foldlM {nodes : List (Nat × LinkedNode)} {depth : Nat}
    (ih : ∀ {node value}, ofNode nodes depth node = .ok value → value.nesting ≤ depth)
    {entries : List (LinkedNode × LinkedNode)} {done values : List (Value × Value)}
    (hdone : nestingEntries done ≤ depth)
    (h : entries.foldlM (fun entries entry => do
      let key ← ofNode nodes depth entry.1
      let value ← ofNode nodes depth entry.2
      addEntry entries key value) done = .ok values) : nestingEntries values ≤ depth := by
  induction entries generalizing done with
  | nil =>
    obtain rfl := Except.ok.inj h
    exact hdone
  | cons entry rest ihRest =>
    simp only [List.foldlM_cons, bind_eq_ok_iff] at h
    obtain ⟨more, ⟨key, hkey, value, hvalue, hadd⟩, hrest⟩ := h
    exact ihRest (nestingEntries_le_of_addEntry hdone (ih hkey) (ih hvalue) hadd) hrest

theorem nesting_le_of_ofNode (nodes : List (Nat × LinkedNode)) {depth : Nat} {node : LinkedNode}
    {value : Value} (h : ofNode nodes depth node = .ok value) : value.nesting ≤ depth := by
  induction depth generalizing node value with
  | zero =>
    unfold ofNode at h
    split at h
    case h_2 => exact (nesting_of_resolve h).le
    all_goals contradiction
  | succ depth ih =>
    unfold ofNode at h
    split at h
    case h_2 => exact (nesting_of_resolve h).trans_le (Nat.zero_le _)
    case h_5 hdepth =>
      obtain rfl := Nat.succ.inj hdepth
      obtain ⟨values, hvalues, hvalue⟩ := bind_eq_ok_iff.1 h
      obtain rfl := Except.ok.inj hvalue
      rw [nesting_inTag]
      exact Nat.succ_le_succ (nestingItems_le_of_mapM ih hvalues)
    case h_6 hdepth =>
      obtain rfl := Nat.succ.inj hdepth
      obtain ⟨values, hvalues, hvalue⟩ := bind_eq_ok_iff.1 h
      obtain rfl := Except.ok.inj hvalue
      rw [nesting_inTag]
      exact Nat.succ_le_succ (nestingEntries_le_of_foldlM ih (Nat.zero_le _) hvalues)
    all_goals contradiction

/-- **Collections nest at most 128 deep** in a value that is read from a text. -/
theorem nesting_le_of_parse {text : String} {value : Value} (h : parse text = .ok value) :
    value.nesting ≤ maxDepth := by
  simp only [parse, bind_eq_ok_iff] at h
  obtain ⟨_, -, _, -, _, -, hvalue⟩ := h
  exact nesting_le_of_ofNode _ hvalue

end RamlExpress.Yaml.Value
