import Mathlib.Data.Finset.Card
import Mathlib.Data.List.Induction
import RamlExpress.Field
import RamlExpress.Proofs.OrderedMap

/-!
# Proofs/OrderedMap/Records — what a map keeps of the steps that made it

    (a, 1), (b, 2), (a, 3)  ──▸  a ↦ 3, b ↦ 2

A map of models, or of fields, is made by putting values under names, one step after the other.  It
**records** the steps: each name once, where it came first, with the value that came last.

* `OrderedMap.records_ofEntries` — the map that steps make records them.
* `Registry.answers_registerAll` — a model takes the place of another just if its name came before.
* `first_place_last_value` — both for models, and the first for fields.
-/

namespace RamlExpress

variable {α : Type}

/-- **A map records some steps**: its names are theirs, in the order in which they came first, and
each holds the value that it was given last. -/
structure OrderedMap.Records (m : OrderedMap α) (steps : List (String × α)) : Prop where
  nodup_keys : m.keys.Nodup
  mem_keys_iff : ∀ name, name ∈ m.keys ↔ name ∈ steps.map Prod.fst
  ordered : m.keys.Pairwise fun name other =>
    (steps.map Prod.fst).idxOf name < (steps.map Prod.fst).idxOf other
  get?_eq_some_iff : ∀ name value, m.get? name = some value ↔
    ∃ before after, steps = before ++ (name, value) :: after ∧ name ∉ after.map Prod.fst
  get?_eq_none_iff : ∀ name, m.get? name = none ↔ name ∉ steps.map Prod.fst
  size_eq : m.size = (steps.map Prod.fst).toFinset.card

/-! ## Names without their repetitions -/

theorem eraseDups_concat (names : List String) (last : String) :
    (names ++ [last]).eraseDups
      = if last ∈ names then names.eraseDups else names.eraseDups ++ [last] := by
  rw [List.eraseDups_append, List.removeAll]
  split
  · rename_i hmem
    rw [List.filter_cons_of_neg (by simpa using hmem), List.filter_nil, List.eraseDups_nil,
      List.append_nil]
  · rename_i hmem
    rw [List.filter_cons_of_pos (by simpa using hmem), List.filter_nil]
    rfl

/-- **Names without their repetitions stand in the order of their first occurrence.** -/
theorem pairwise_idxOf_eraseDups (names : List String) :
    names.eraseDups.Pairwise fun name other => names.idxOf name < names.idxOf other := by
  induction names using List.reverseRecOn with
  | nil => exact .nil
  | append_singleton names last ih =>
    have hold : names.eraseDups.Pairwise fun name other =>
        (names ++ [last]).idxOf name < (names ++ [last]).idxOf other := by
      refine ih.imp_of_mem fun {name other} hname hother hlt => ?_
      rwa [List.idxOf_append_of_mem (List.mem_eraseDups.1 hname),
        List.idxOf_append_of_mem (List.mem_eraseDups.1 hother)]
    rw [eraseDups_concat]
    split
    · exact hold
    · rename_i hlast
      refine List.pairwise_append.2
        ⟨hold, List.pairwise_singleton _ _, fun name hname other hother => ?_⟩
      obtain rfl := List.mem_singleton.1 hother
      have hmem := List.mem_eraseDups.1 hname
      rw [List.idxOf_append_of_mem hmem, List.idxOf_append_of_notMem hlast]
      exact Nat.lt_add_right _ (List.idxOf_lt_length_of_mem hmem)

namespace OrderedMap

/-- A map has as many names as there are. -/
theorem size_eq_card (m : OrderedMap α) : m.size = m.keys.toFinset.card := by
  rw [keys, List.toFinset_card_of_nodup m.nodup_keys, List.length_map, size]

/-- **The map that steps make records them.** -/
theorem records_ofEntries (steps : List (String × α)) : (ofEntries steps).Records steps where
  nodup_keys := (ofEntries steps).nodup_keys
  mem_keys_iff := mem_keys_ofEntries steps
  ordered := by
    rw [keys_ofEntries]
    exact pairwise_idxOf_eraseDups (steps.map Prod.fst)
  get?_eq_some_iff := fun name value => by
    rw [get?_ofEntries, lookup_reverse_eq_some_iff]
  get?_eq_none_iff := fun name => by
    rw [get?_eq_none_iff, mem_keys_ofEntries]
  size_eq := by
    have hnames : (ofEntries steps).keys.toFinset = (steps.map Prod.fst).toFinset := by
      ext name
      rw [List.mem_toFinset, List.mem_toFinset, mem_keys_ofEntries]
    rw [size_eq_card, hnames]

end OrderedMap

namespace Registry

/-- Registers models one after the other, and says of each whether it took the place of another. -/
def registerAll (models : Registry) : List (String × FieldSchema) → Registry × List Bool
  | [] => (models, [])
  | (name, schema) :: rest =>
    let (models, replaced) := register models name schema
    let (models, answers) := registerAll models rest
    (models, replaced :: answers)

theorem registerAll_fst (models : Registry) (steps : List (String × FieldSchema)) :
    (registerAll models steps).1 = models.insertAll steps := by
  induction steps generalizing models with
  | nil => rfl
  | cons step rest ih => exact ih (models.insert step.1 step.2)

theorem contains_eq (models : Registry) (name : String) :
    models.contains name = decide (name ∈ models.keys) := by
  rw [OrderedMap.contains, Bool.eq_iff_iff, decide_eq_true_iff, ← Option.ne_none_iff_isSome, ne_eq,
    OrderedMap.get?_eq_none_iff, Decidable.not_not]

/-- **A model takes the place of another just if its name was there or came before.** -/
theorem answers_registerAll (models : Registry) (steps : List (String × FieldSchema)) (i : Nat) :
    (registerAll models steps).2[i]? = steps[i]?.map fun step =>
      decide (step.1 ∈ models.keys ∨ step.1 ∈ (steps.take i).map Prod.fst) := by
  induction steps generalizing models i with
  | nil => rfl
  | cons step rest ih =>
    cases i with
    | zero =>
      change some (models.contains step.1) = _
      simp [contains_eq]
    | succ i =>
      change (registerAll (models.insert step.1 step.2) rest).2[i]? = _
      have hmem : ∀ name, name ∈ (models.insert step.1 step.2).keys
          ↔ name ∈ models.keys ∨ name = step.1 := by
        intro name
        rw [OrderedMap.keys_insert]
        split
        · rename_i hold
          exact ⟨.inl, fun h => h.elim id fun heq => heq ▸ hold⟩
        · simp
      simp [ih, hmem, or_assoc]

end Registry

/-- **Models and fields stand where they came first and hold what came last.**  Registering a model
says that it takes the place of another just if its name came at an earlier step. -/
theorem first_place_last_value :
    (∀ steps : List (String × FieldSchema),
      (Registry.registerAll .empty steps).1.Records steps
      ∧ ∀ i : Nat, (Registry.registerAll .empty steps).2[i]? = steps[i]?.map fun step =>
          decide (step.1 ∈ (steps.take i).map Prod.fst))
    ∧ ∀ steps : List (String × Field),
      (steps.foldl (fun fields step => fields.insert step.1 step.2)
        (.empty : FieldSchema)).Records steps := by
  refine ⟨fun steps => ⟨?_, fun i => ?_⟩, OrderedMap.records_ofEntries⟩
  · rw [Registry.registerAll_fst]
    exact OrderedMap.records_ofEntries steps
  · rw [Registry.answers_registerAll]
    simp

end RamlExpress
