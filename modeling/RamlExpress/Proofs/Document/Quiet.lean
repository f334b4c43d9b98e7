import RamlExpress.Document.Load
import RamlExpress.Proofs.Log

/-!
# Proofs/Document/Quiet — what is read without a warning

Schemas, bodies and methods log at most what those look for who look for faults.  All warnings of a
document are about keys of its resources.
-/

namespace RamlExpress

open Yaml (Value)

namespace Origin

open Logged

theorem quiet_ofText (named : NamedSchemas) (text : String) : (ofText named text).Quiet := by
  simp only [ofText]
  split
  · exact quiet_pure _
  · split
    · exact quiet_pure _
    · exact (quiet_debug _).bind fun _ => quiet_pure _

theorem quiet_resolveWithin (origin : Origin) (named : NamedSchemas) (fuel : Nat) (value : Value) :
    (origin.resolveWithin named fuel value).Quiet := by
  induction fuel generalizing value with
  | zero =>
    unfold resolveWithin
    split
    · exact quiet_ofText ..
    · exact (quiet_of _).map _
    · split
      · exact (quiet_of _).bind fun _ => quiet_fail _
      · exact quiet_pure _
    · exact quiet_pure _
  | succ fuel ih =>
    unfold resolveWithin
    split
    · exact quiet_ofText ..
    · exact (quiet_of _).map _
    · split
      · refine (quiet_of _).bind fun _ => (quiet_debug _).bind fun _ => ?_
        refine (quiet_of _).bind fun _ => ?_
        split
        · exact quiet_pure _
        · exact (quiet_of _).bind ih
      · exact quiet_pure _
    · exact quiet_pure _

theorem quiet_schemaOf (origin : Origin) (named : NamedSchemas) (value : Value) :
    (origin.schemaOf named value).Quiet := by
  unfold schemaOf
  split
  · exact quiet_resolveWithin ..
  · split
    · exact quiet_resolveWithin ..
    · split
      · exact (quiet_of _).map _
      · split
        · exact quiet_resolveWithin ..
        · exact quiet_pure _

end Origin

namespace Document

open Logged

theorem quiet_addNamed (origin : Origin) (named : NamedSchemas) (entries : List (Value × Value)) :
    (addNamed origin named entries).Quiet := by
  induction entries generalizing named with
  | nil => exact quiet_pure _
  | cons entry rest ih =>
    rw [addNamed]
    split
    · exact ih named
    · refine (origin.quiet_schemaOf ..).bind fun schema => ?_
      split
      · exact ih named
      · exact (quiet_debug _).bind fun _ => ih _

theorem quiet_namedSchemas (origin : Origin) (root : List (Value × Value)) :
    (namedSchemas origin root).Quiet :=
  quiet_foldlM (quiet_addNamed origin) _ _

theorem quiet_mediaTypes (c : Conventions) (entries : List (Value × Value)) :
    (mediaTypes c entries).Quiet := by
  induction entries with
  | nil => exact quiet_pure _
  | cons entry rest ih =>
    rw [mediaTypes]
    split
    · exact ih
    · exact (c.origin.quiet_schemaOf ..).bind fun _ => ih.bind fun _ => quiet_pure _

theorem quiet_bodyIn (c : Conventions) (entries : List (Value × Value)) :
    (bodyIn c entries).Quiet := by
  unfold bodyIn bodyOf
  split
  · split
    · exact quiet_pure _
    · split
      · exact quiet_mediaTypes ..
      · exact (c.origin.quiet_schemaOf ..).bind fun _ => quiet_pure _
  · exact quiet_pure _

theorem quiet_responsesOf (c : Conventions) (entries : List (Value × Value)) :
    (responsesOf c entries).Quiet := by
  induction entries with
  | nil => exact quiet_pure _
  | cons entry rest ih =>
    rw [responsesOf]
    split
    · exact ih
    · exact (quiet_bodyIn ..).bind fun _ => ih.bind fun _ => quiet_pure _

/-- **A method is read without a warning.** -/
theorem quiet_methodOf (c : Conventions) (verb : Verb) (value : Value) :
    (methodOf c verb value).Quiet := by
  simp only [methodOf]
  split
  · exact quiet_pure _
  · refine (quiet_bodyIn ..).bind fun _ => ?_
    split
    · exact (quiet_responsesOf ..).bind fun _ => quiet_pure _
    · exact (quiet_pure _).bind fun _ => quiet_pure _

end Document

end RamlExpress
