import RamlExpress.Yaml.Document

/-!
# Proofs/Yaml/Value — values can be compared

Whether two values are the same can be decided, and so can whether a text has a given value
(`Value.parse`).  This is sameness of the values as they stand; `Value.sameKey` does not mind the
order of entries.
-/

namespace RamlExpress.Yaml.Value

mutual

/-- Two values are the same. -/
def same : Value → Value → Bool
  | null, null => true
  | bool a, bool b => a == b
  | number a, number b => a == b
  | string a, string b => a == b
  | sequence a, sequence b => sameList a b
  | mapping a, mapping b => sameEntries a b
  | tagged n a, tagged m b => n == m && same a b
  | _, _ => false

/-- The items of two lists are the same, one by one. -/
def sameList : List Value → List Value → Bool
  | [], [] => true
  | a :: as, b :: bs => same a b && sameList as bs
  | _, _ => false

/-- The entries of two lists are the same, one by one. -/
def sameEntries : List (Value × Value) → List (Value × Value) → Bool
  | [], [] => true
  | (k, a) :: as, (l, b) :: bs => same k l && same a b && sameEntries as bs
  | _, _ => false

end

mutual

theorem same_iff : ∀ a b : Value, same a b = true ↔ a = b
  | .null, b => by cases b <;> simp [same]
  | .bool a, b => by cases b <;> simp [same]
  | .number a, b => by cases b <;> simp [same]
  | .string a, b => by cases b <;> simp [same]
  | .sequence a, b => by cases b <;> simp [same, sameList_iff a]
  | .mapping a, b => by cases b <;> simp [same, sameEntries_iff a]
  | .tagged n a, b => by cases b <;> simp [same, same_iff a]

theorem sameList_iff : ∀ as bs : List Value, sameList as bs = true ↔ as = bs
  | [], bs => by cases bs <;> simp [sameList]
  | a :: as, bs => by cases bs <;> simp [sameList, same_iff a, sameList_iff as]

theorem sameEntries_iff : ∀ as bs : List (Value × Value), sameEntries as bs = true ↔ as = bs
  | [], bs => by cases bs <;> simp [sameEntries]
  | (k, a) :: as, [] => by simp [sameEntries]
  | (k, a) :: as, (l, b) :: bs => by
    simp [sameEntries, same_iff k, same_iff a, sameEntries_iff as]

end

instance : DecidableEq Value := fun a b => decidable_of_iff _ (same_iff a b)

/-- A text has a given value, or it has not. -/
instance (text : String) (value : Value) : Decidable (parse text = .ok value) :=
  match h : parse text with
  | .ok other => decidable_of_iff (other = value) (by simp)
  | .error _ => .isFalse nofun

end RamlExpress.Yaml.Value
