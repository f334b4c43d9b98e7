import RamlExpress.Proofs.Json.Legible
import RamlExpress.Proofs.Log
import RamlExpress.Yaml.Document

/-!
# Proofs/Yaml/WellFormed — what every value of a document has

Numbers are integers of 64 bits or doubles, and the keys of a mapping differ.  Every value that is
read from a text is well formed.

* `Value.wellFormed_of_parse` — …that is read.
-/

namespace RamlExpress.Yaml.Value

/-- **A well formed value**: its numbers are held, and no key occurs twice in a mapping. -/
inductive WellFormed : Value → Prop
  | null : WellFormed .null
  | bool (value : Bool) : WellFormed (.bool value)
  | number {value : Number} : value.Held → WellFormed (.number value)
  | string (value : String) : WellFormed (.string value)
  | sequence {items : List Value} : (∀ item ∈ items, WellFormed item) → WellFormed (.sequence items)
  | mapping {entries : List (Value × Value)} :
      entries.Pairwise (fun entry later => entry.1.sameKey later.1 = false) →
      (∀ entry ∈ entries, WellFormed entry.1) → (∀ entry ∈ entries, WellFormed entry.2) →
      WellFormed (.mapping entries)
  | tagged (name : String) {value : Value} : WellFormed value → WellFormed (.tagged name value)

/-! ## Scalars -/

theorem representable_of_ofDecimal {negative s : Bool} {digits m : Nat} {scale e : Int}
    (h : Binary64.ofDecimal negative digits scale = .finite s m e) :
    Binary64.Representable m e := by
  unfold Binary64.ofDecimal at h
  simp only at h
  split at h
  · obtain ⟨-, rfl, rfl⟩ := Binary64.finite.inj h
    decide
  · split at h
    · contradiction
    · split at h
      · exact Binary64.ofRatio_representable one_pos h
      · exact Binary64.ofRatio_representable (Nat.pow_pos (by decide)) h

theorem held_of_decimal? {negative : Bool} {text : List Char} {x : Binary64}
    (h : Scalar.decimal? negative text = some x) : (Number.real x).Held := by
  simp only [Scalar.decimal?, Option.bind_eq_bind, Option.bind_eq_some_iff, Option.pure_def,
    Option.some.injEq] at h
  obtain ⟨digits, -, exponent, -, rfl⟩ := h
  cases hx : Binary64.ofDecimal negative digits _ with
  | finite s m e => exact representable_of_ofDecimal hx
  | infinite _ => trivial
  | nan => trivial

theorem held_of_real? {text : String} {x : Binary64} (h : Scalar.real? text = some x) :
    (Number.real x).Held := by
  unfold Scalar.real? at h
  split at h
  · obtain rfl := Option.some.inj h
    trivial
  · split at h
    · obtain rfl := Option.some.inj h
      trivial
    · split at h
      · obtain rfl := Option.some.inj h
        trivial
      · have hsigned := (Option.filter_eq_some_iff.1 h).1
        unfold Scalar.signed? at hsigned
        split at hsigned <;> exact held_of_decimal? hsigned

theorem eq_some_of_typed {typed : Option Value} {value : Value}
    (h : Scalar.typed typed = .ok value) : typed = some value := by
  cases typed with
  | none => contradiction
  | some other => exact congrArg some (Except.ok.inj h)

/-- **A property of scalars**, which a tag does not take away. -/
structure HoldsOfScalars (P : Value → Prop) : Prop where
  null : P .null
  bool (value : Bool) : P (.bool value)
  number {value : Number} : value.Held → P (.number value)
  string (value : String) : P (.string value)
  tagged (name : String) {value : Value} : P value → P (.tagged name value)

namespace HoldsOfScalars

variable {P : Value → Prop} (hP : HoldsOfScalars P)

include hP

theorem of_heldInteger {n : Int} {value : Value} (h : Scalar.heldInteger n = .ok value) :
    P value := by
  unfold Scalar.heldInteger at h
  split at h
  · rename_i hheld
    obtain rfl := Except.ok.inj h
    simp only [Scalar.isHeld, Nat.pow_eq, Bool.and_eq_true, decide_eq_true_eq] at hheld
    refine hP.number ⟨?_, ?_⟩
    · exact_mod_cast hheld.1
    · exact_mod_cast hheld.2
  · contradiction

theorem of_plain {text : String} {value : Value} (h : Scalar.plain text = .ok value) :
    P value := by
  unfold Scalar.plain at h
  split at h
  · obtain rfl := Except.ok.inj h
    exact hP.null
  · split at h
    · obtain rfl := Except.ok.inj h
      exact hP.bool _
    · exact hP.of_heldInteger h
    · split at h
      · obtain rfl := Except.ok.inj h
        exact hP.string _
      · split at h
        · rename_i hreal
          obtain rfl := Except.ok.inj h
          exact hP.number (held_of_real? hreal)
        · obtain rfl := Except.ok.inj h
          exact hP.string _

/-- **What a scalar stands for** has every property of scalars. -/
theorem of_resolve {tag : Option Tag} {isPlain : Bool} {text : String} {value : Value}
    (h : Scalar.resolve tag isPlain text = .ok value) : P value := by
  have huntyped : ∀ {value : Value},
      (if isPlain then Scalar.plain text else .ok (.string text)) = .ok value → P value := by
    intro value h
    split at h
    · exact hP.of_plain h
    · obtain rfl := Except.ok.inj h
      exact hP.string _
  unfold Scalar.resolve at h
  simp only at h
  split at h
  · exact huntyped h
  · cases hvalue : (if isPlain then Scalar.plain text else .ok (.string text)) with
    | error fault =>
      rw [hvalue] at h
      contradiction
    | ok inner =>
      rw [hvalue] at h
      obtain rfl := Except.ok.inj h
      exact hP.tagged _ (huntyped hvalue)
  · obtain ⟨b, -, rfl⟩ := Option.map_eq_some_iff.1 (eq_some_of_typed h)
    exact hP.bool b
  · split at h
    · exact hP.of_heldInteger h
    · contradiction
  · obtain ⟨x, hx, rfl⟩ := Option.map_eq_some_iff.1 (eq_some_of_typed h)
    exact hP.number (held_of_real? hx)
  · have hnull := eq_some_of_typed h
    split at hnull
    · obtain rfl := Option.some.inj hnull
      exact hP.null
    · contradiction
  · obtain rfl := Except.ok.inj h
    exact hP.string _

end HoldsOfScalars

theorem wellFormed_of_resolve {tag : Option Tag} {isPlain : Bool} {text : String} {value : Value}
    (h : Scalar.resolve tag isPlain text = .ok value) : value.WellFormed :=
  HoldsOfScalars.of_resolve ⟨.null, .bool, .number, .string, .tagged⟩ h

/-! ## Collections -/

theorem wellFormed_inTag {value : Value} (h : value.WellFormed) (tag : Option Tag) :
    (inTag tag value).WellFormed := by
  unfold inTag
  split
  · exact .tagged _ h
  · exact h

/-- An entry is added only if its key is new. -/
theorem wellFormed_addEntry {entries more : List (Value × Value)} {key value : Value}
    (hentries : (Value.mapping entries).WellFormed) (hkey : key.WellFormed)
    (hvalue : value.WellFormed) (h : addEntry entries key value = .ok more) :
    (Value.mapping more).WellFormed := by
  obtain _ | _ | _ | _ | _ | ⟨hdistinct, hkeys, hvalues⟩ := hentries
  unfold addEntry at h
  split at h
  · contradiction
  · rename_i hnew
    obtain rfl := Except.ok.inj h
    have hother : ∀ entry ∈ entries, entry.1.sameKey key = false := by
      intro entry hentry
      simpa using fun hsame => hnew (List.any_eq_true.2 ⟨entry, hentry, hsame⟩)
    refine .mapping ?_ ?_ ?_
    · refine List.pairwise_append.2 ⟨hdistinct, List.pairwise_singleton .., ?_⟩
      rintro entry hentry _ hlast
      obtain rfl := List.mem_singleton.1 hlast
      exact hother entry hentry
    · exact List.forall_mem_append.2 ⟨hkeys, by simpa using hkey⟩
    · exact List.forall_mem_append.2 ⟨hvalues, by simpa using hvalue⟩

theorem wellFormed_of_mapM {nodes : List (Nat × LinkedNode)} {depth : Nat}
    (ih : ∀ {node value}, ofNode nodes depth node = .ok value → value.WellFormed)
    {items : List LinkedNode} {values : List Value}
    (h : items.mapM (ofNode nodes depth) = .ok values) : ∀ value ∈ values, value.WellFormed := by
  induction items generalizing values with
  | nil =>
    obtain rfl := Except.ok.inj h
    simp
  | cons item rest ihRest =>
    simp only [List.mapM_cons, bind_eq_ok_iff] at h
    obtain ⟨value, hvalue, others, hothers, hvalues⟩ := h
    obtain rfl := Except.ok.inj hvalues
    exact List.forall_mem_cons.2 ⟨ih hvalue, ihRest hothers⟩

theorem wellFormed_of_foldlM {nodes : List (Nat × LinkedNode)} {depth : Nat}
    (ih : ∀ {node value}, ofNode nodes depth node = .ok value → value.WellFormed)
    {entries : List (LinkedNode × LinkedNode)} {done values : List (Value × Value)}
    (hdone : (Value.mapping done).WellFormed)
    (h : entries.foldlM (fun entries entry => do
      let key ← ofNode nodes depth entry.1
      let value ← ofNode nodes depth entry.2
      addEntry entries key value) done = .ok values) : (Value.mapping values).WellFormed := by
  induction entries generalizing done with
  | nil =>
    obtain rfl := Except.ok.inj h
    exact hdone
  | cons entry rest ihRest =>
    simp only [List.foldlM_cons, bind_eq_ok_iff] at h
    obtain ⟨more, ⟨key, hkey, value, hvalue, hadd⟩, hrest⟩ := h
    exact ihRest (wellFormed_addEntry hdone (ih hkey) (ih hvalue) hadd) hrest

theorem wellFormed_of_ofNode (nodes : List (Nat × LinkedNode)) {depth : Nat} {node : LinkedNode}
    {value : Value} (h : ofNode nodes depth node = .ok value) : value.WellFormed := by
  induction depth generalizing node value with
  | zero =>
    unfold ofNode at h
    split at h
    case h_2 => exact wellFormed_of_resolve h
    all_goals contradiction
  | succ depth ih =>
    unfold ofNode at h
    split at h
    case h_2 => exact wellFormed_of_resolve h
    case h_5 hdepth =>
      obtain rfl := Nat.succ.inj hdepth
      obtain ⟨values, hvalues, hvalue⟩ := bind_eq_ok_iff.1 h
      obtain rfl := Except.ok.inj hvalue
      exact wellFormed_inTag (.sequence (wellFormed_of_mapM ih hvalues)) _
    case h_6 hdepth =>
      obtain rfl := Nat.succ.inj hdepth
      obtain ⟨values, hvalues, hvalue⟩ := bind_eq_ok_iff.1 h
      obtain rfl := Except.ok.inj hvalue
      exact wellFormed_inTag (wellFormed_of_foldlM ih (.mapping .nil (by simp) (by simp)) hvalues) _
    all_goals contradiction

/-- **Every value that is read from a text is well formed.** -/
theorem wellFormed_of_parse {text : String} {value : Value} (h : parse text = .ok value) :
    value.WellFormed := by
  simp only [parse, bind_eq_ok_iff] at h
  obtain ⟨_, -, _, -, _, -, hvalue⟩ := h
  exact wellFormed_of_ofNode _ hvalue

end RamlExpress.Yaml.Value
