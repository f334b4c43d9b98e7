import RamlExpress.Document.Load
import RamlExpress.Proofs.Log

/-!
# Proofs/Document/Reference — what the named schemas of a document are used for

A value either is its schema, whatever is named, or stands for one name and has the schema of that
name (`Origin.names_or_isFixed`).  A document that is loaded looks at its named schemas in no other
way, so it does not matter in which order they stand.

* `Origin.schemaOf_insert` — a name that a value does not stand for does not matter to it.
* `Document.resourcesOf_congr` — resources under named schemas that stand for the same.
-/

namespace RamlExpress

open Yaml (Value)

namespace Origin

/-- **A value stands for a name**: its schema is whatever that name has. -/
def Names (origin : Origin) (value : Value) (name : String) : Prop :=
  ∀ named, (origin.schemaOf named value).result = .ok (named.get? name)

/-- A value whose schema is the same whatever is named. -/
def IsFixed (origin : Origin) (value : Value) : Prop :=
  ∀ named named', (origin.schemaOf named value).result = (origin.schemaOf named' value).result

/-- What is given for some named schemas is what one name has, or always the same. -/
def LooksUp (give : NamedSchemas → Except Failure (Option String)) : Prop :=
  (∃ name, ∀ named, give named = .ok (named.get? name)) ∨ ∀ named named', give named = give named'

theorem looksUp_const (result : Except Failure (Option String)) : LooksUp fun _ => result :=
  .inr fun _ _ => rfl

/-- A text that is no object is a name. -/
theorem result_ofText_of_not_object {text : String} (h : looksLikeObject text.toList = false)
    (named : NamedSchemas) : (ofText named text).result = .ok (named.get? (Text.trim text)) := by
  rw [ofText, if_neg (by simp [h])]
  cases named.get? (Text.trim text) <;> rfl

theorem looksUp_ofText (text : String) : LooksUp fun named => (ofText named text).result := by
  cases hobject : looksLikeObject text.toList with
  | false => exact .inl ⟨Text.trim text, result_ofText_of_not_object hobject⟩
  | true =>
    simp only [ofText, hobject]
    exact looksUp_const _

/-- An include looks up what its file does. -/
theorem looksUp_resolveWithin (origin : Origin) : ∀ (fuel : Nat) (value : Value),
    LooksUp fun named => (origin.resolveWithin named fuel value).result
  | fuel, .string text => by
    simp only [resolveWithin]
    exact looksUp_ofText text
  | fuel, .mapping entries => by
    simp only [resolveWithin]
    exact looksUp_const _
  | 0, .tagged name content => by
    simp only [resolveWithin]
    split <;> exact looksUp_const _
  | fuel + 1, .tagged name content => by
    simp only [resolveWithin]
    split
    · simp only [Logged.result_bind, Logged.result_of, Logged.result_debug, ok_bind]
      cases includeTarget content with
      | error failure => exact looksUp_const _
      | ok target =>
        simp only [ok_bind]
        cases read origin.files (Path.join origin.base target) with
        | error failure => exact looksUp_const _
        | ok text =>
          simp only [ok_bind]
          split
          · exact looksUp_const _
          · simp only [Logged.result_bind, Logged.result_of]
            cases parse text with
            | error failure => exact looksUp_const _
            | ok inner => exact looksUp_resolveWithin origin fuel inner
    · exact looksUp_const _
  | fuel, .null | fuel, .bool _ | fuel, .number _ | fuel, .sequence _ => by
    simp only [resolveWithin]
    exact looksUp_const _

/-- **A value stands for one name, or for the same schema whatever is named.** -/
theorem names_or_isFixed (origin : Origin) (value : Value) :
    (∃ name, origin.Names value name) ∨ origin.IsFixed value := by
  change LooksUp fun named => (origin.schemaOf named value).result
  unfold schemaOf
  cases value.untagged.entries? with
  | none => exact looksUp_resolveWithin origin _ value
  | some entries =>
    simp only
    cases Value.lookup "schema" entries with
    | some schema => exact looksUp_resolveWithin origin _ schema
    | none =>
      simp only
      split
      · exact looksUp_const _
      · cases Value.lookup "type" entries with
        | some declared => exact looksUp_resolveWithin origin _ declared
        | none => exact looksUp_const _

variable {origin : Origin} {value : Value}

theorem names_string {text : String} (h : looksLikeObject text.toList = false) :
    origin.Names (.string text) (Text.trim text) := by
  intro named
  simp only [schemaOf, Value.untagged, Value.entries?, resolve, resolveWithin]
  exact result_ofText_of_not_object h named

/-- A value that has a schema of its own stands for no name. -/
theorem not_names_of_schemaOf_empty
    (h : (origin.schemaOf .empty value).result.toOption ≠ some none) (name : String) :
    ¬origin.Names value name := by
  intro hname
  rw [hname] at h
  exact h rfl

/-- A value stands for no more than one name. -/
theorem Names.eq {name other : String} (h : origin.Names value name)
    (h' : origin.Names value other) : name = other := by
  have hget := Except.ok.inj ((h (OrderedMap.empty.insert name "")).symm.trans (h' _))
  rw [OrderedMap.get?_insert, OrderedMap.get?_insert, if_pos rfl] at hget
  split at hget
  · exact Eq.symm ‹other = name›
  · contradiction

/-- Named schemas that stand for the same give the same. -/
theorem schemaOf_congr (origin : Origin) (value : Value) {named named' : NamedSchemas}
    (h : named.get? = named'.get?) :
    (origin.schemaOf named value).result = (origin.schemaOf named' value).result := by
  rcases origin.names_or_isFixed value with ⟨name, hname⟩ | hfixed
  · rw [hname, hname, h]
  · exact hfixed _ _

/-- **A name that a value does not stand for does not matter to it.** -/
theorem schemaOf_insert {name : String} (h : ¬origin.Names value name) (named : NamedSchemas)
    (schema : String) :
    (origin.schemaOf (named.insert name schema) value).result
      = (origin.schemaOf named value).result := by
  rcases origin.names_or_isFixed value with ⟨other, hother⟩ | hfixed
  · have hne : other ≠ name := fun heq => h (heq ▸ hother)
    rw [hother, hother, OrderedMap.get?_insert, if_neg hne]
  · exact hfixed _ _

end Origin

/-! ## Loading -/

namespace Document

/-- Conventions that differ at most in the order of the named schemas. -/
structure Alike (c c' : Conventions) : Prop where
  origin_eq : c.origin = c'.origin
  named_eq : c.named.get? = c'.named.get?
  mediaType_eq : c.mediaType = c'.mediaType

section Alike

variable {c c' : Conventions} (h : Alike c c')

include h

theorem Alike.schemaOf (value : Value) :
    (c.origin.schemaOf c.named value).result = (c'.origin.schemaOf c'.named value).result := by
  rw [h.origin_eq]
  exact c'.origin.schemaOf_congr value h.named_eq

theorem mediaTypes_congr (entries : List (Value × Value)) :
    (mediaTypes c entries).result = (mediaTypes c' entries).result := by
  induction entries with
  | nil => rfl
  | cons entry rest ih =>
    obtain ⟨key, value⟩ := entry
    simp only [mediaTypes]
    cases keyText? key with
    | none => exact ih
    | some contentType => simp only [Logged.result_bind, h.schemaOf, ih]

theorem bodyOf_congr (body : Value) : (bodyOf c body).result = (bodyOf c' body).result := by
  simp only [bodyOf]
  cases body.untagged.entries? with
  | none => rfl
  | some entries =>
    simp only
    split
    · exact mediaTypes_congr h entries
    · simp only [Logged.result_bind, h.schemaOf, h.mediaType_eq]

theorem bodyIn_congr (entries : List (Value × Value)) :
    (bodyIn c entries).result = (bodyIn c' entries).result := by
  simp only [bodyIn]
  cases Value.lookup "body" entries with
  | none => rfl
  | some body => exact bodyOf_congr h body

theorem responsesOf_congr (entries : List (Value × Value)) :
    (responsesOf c entries).result = (responsesOf c' entries).result := by
  induction entries with
  | nil => rfl
  | cons entry rest ih =>
    obtain ⟨key, value⟩ := entry
    simp only [responsesOf]
    cases key.scalarText? with
    | none => exact ih
    | some status => simp only [Logged.result_bind, bodyIn_congr h, ih]

theorem methodOf_congr (verb : Verb) (value : Value) :
    (methodOf c verb value).result = (methodOf c' verb value).result := by
  simp only [methodOf]
  cases value.untagged.entries? with
  | none => rfl
  | some entries =>
    simp only [Logged.result_bind, bodyIn_congr h]
    split
    · simp only [Logged.result_bind, responsesOf_congr h]
    · rfl

end Alike

mutual

theorem resourceOf_congr {c c' : Conventions} (h : Alike c c') (uri : String) :
    ∀ value : Value, (resourceOf c uri value).result = (resourceOf c' uri value).result
  | .mapping entries => by
    simp only [resourceOf, Logged.result_bind, membersOf_congr h uri entries]
  | .tagged _ value => by
    simp only [resourceOf, resourceOf_congr h uri value]
  | .null | .bool _ | .number _ | .string _ | .sequence _ => rfl

theorem membersOf_congr {c c' : Conventions} (h : Alike c c') (uri : String) :
    ∀ entries : List (Value × Value),
    (membersOf c uri entries).result = (membersOf c' uri entries).result
  | [] => rfl
  | (key, value) :: rest => by
    simp only [membersOf]
    cases keyText? key with
    | none => exact membersOf_congr h uri rest
    | some key =>
      simp only
      split
      · simp only [Logged.result_bind, resourceOf_congr h key value, membersOf_congr h uri rest]
      · cases Verb.ofKey? key with
        | some verb => simp only [Logged.result_bind, methodOf_congr h, membersOf_congr h uri rest]
        | none =>
          simp only
          split
          · simp only [Logged.result_bind, membersOf_congr h uri rest]
          · exact membersOf_congr h uri rest

end

/-- **Resources under named schemas that stand for the same are the same.** -/
theorem resourcesOf_congr {c c' : Conventions} (h : Alike c c') (entries : List (Value × Value)) :
    (resourcesOf c entries).result = (resourcesOf c' entries).result := by
  induction entries with
  | nil => rfl
  | cons entry rest ih =>
    obtain ⟨key, value⟩ := entry
    simp only [resourcesOf]
    cases keyText? key with
    | none => exact ih
    | some key =>
      simp only
      split
      · simp only [Logged.result_bind, resourceOf_congr h, ih]
      · exact ih

end Document

end RamlExpress
