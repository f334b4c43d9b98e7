import Mathlib.Data.List.Basic
import Mathlib.Data.List.Induction
import RamlExpress.Naming
import RamlExpress.Proofs.Uri

/-!
# Proofs/Uri/RoundTrip — paths cut into segments and written again

    //stores/{id}/  ──▸  stores, {id}  ──▸  /stores/{id}

A piece is written as it was read, so cutting a path and writing its segments loses nothing but
empty pieces.  The other way round, each segment is cut on its own (`segmentsOf_pathText`), and one
comes back just if it could have been read from a path.

* `Segment.text_ofPiece` — a piece is written as it was read.
* `segmentsOf_text_eq_iff` — the segments that come back.
* `segments_round_trip` — both ways, for paths and for lists of segments.
-/

namespace RamlExpress

namespace Segment

/-- **A segment that fits into a path**: its text is one piece, and it is no literal that would be
read as a parameter. -/
structure Fits (segment : Segment) : Prop where
  text_ne : segment.text ≠ ""
  no_slash : '/' ∉ segment.text.toList
  not_braced : ∀ name, segment ≠ .literal ("\x7b" ++ name ++ "\x7d")

theorem unbraced?_text_parameter (name : String) :
    unbraced? (parameter name).text.toList = some name.toList := by
  rw [unbraced?_eq_some_iff]
  simp [text]

/-- **A piece is written as it was read.** -/
theorem text_ofPiece (piece : String) : (ofPiece piece).text = piece := by
  rw [ofPiece]
  cases hname : unbraced? piece.toList with
  | none => rfl
  | some name =>
    rw [← String.toList_inj, unbraced?_eq_some_iff.1 hname]
    simp [text]

/-- No literal is read from a piece in braces. -/
theorem ofPiece_ne_braced (piece name : String) :
    ofPiece piece ≠ .literal ("\x7b" ++ name ++ "\x7d") := by
  intro hread
  have hpiece : piece = (parameter name).text := by
    rw [← text_ofPiece piece, hread]
    rfl
  rw [hpiece, ofPiece, unbraced?_text_parameter] at hread
  contradiction

/-- A segment is read from its text, unless it is a literal in braces. -/
theorem ofPiece_text {segment : Segment}
    (h : ∀ name, segment ≠ .literal ("\x7b" ++ name ++ "\x7d")) :
    ofPiece segment.text = segment := by
  cases segment with
  | parameter name =>
    rw [ofPiece, unbraced?_text_parameter]
    exact congrArg parameter String.ofList_toList
  | literal name =>
    have hname : unbraced? name.toList = none := by
      refine Option.eq_none_iff_forall_ne_some.2 fun inner hinner => h (String.ofList inner) ?_
      rw [literal.injEq, ← String.toList_inj, unbraced?_eq_some_iff.1 hinner]
      simp
    rw [text, ofPiece, hname]

end Segment

/-! ## One segment -/

theorem slash_notMem_of_mem_pathPieces {uri piece : String} (h : piece ∈ pathPieces uri) :
    '/' ∉ piece.toList := by
  obtain ⟨chars, hchars, rfl⟩ := List.mem_map.1 h
  rw [String.toList_ofList]
  exact slash_notMem_of_mem_slashPieces (List.mem_filter.1 hchars).1

theorem pathPieces_of_piece {piece : String} (hne : piece ≠ "") (hslash : '/' ∉ piece.toList) :
    pathPieces piece = [piece] := by
  rw [pathPieces, slashPieces_of_notMem hslash, List.filter_cons_of_pos (by simpa using hne)]
  simp

/-- All segments of a path fit into one. -/
theorem fits_of_mem_segmentsOf {uri : String} {segment : Segment} (h : segment ∈ segmentsOf uri) :
    segment.Fits := by
  obtain ⟨piece, hpiece, rfl⟩ := List.mem_map.1 h
  refine ⟨?_, ?_, Segment.ofPiece_ne_braced piece⟩
  · rw [Segment.text_ofPiece]
    exact ne_empty_of_mem_pathPieces hpiece
  · rw [Segment.text_ofPiece]
    exact slash_notMem_of_mem_pathPieces hpiece

/-- **A segment comes back from its text just if it fits into a path.** -/
theorem segmentsOf_text_eq_iff {segment : Segment} :
    segmentsOf segment.text = [segment] ↔ segment.Fits := by
  constructor
  · intro h
    exact fits_of_mem_segmentsOf (h ▸ List.mem_singleton_self segment)
  · intro h
    rw [segmentsOf, pathPieces_of_piece h.text_ne h.no_slash, List.map_singleton,
      Segment.ofPiece_text h.not_braced]

/-! ## Lists of segments -/

theorem pathText_concat (segments : List Segment) (last : Segment) :
    pathText (segments ++ [last]) = pathText segments ++ ("/" ++ last.text) := by
  rw [← String.toList_inj]
  simp [pathText, String.toList_join]

theorem segmentsOf_slash_append (uri : String) : segmentsOf ("/" ++ uri) = segmentsOf uri := by
  simp [segmentsOf, pathPieces, slashPieces]

/-- **Each segment is cut on its own**, since there is a slash in front of it. -/
theorem segmentsOf_pathText (segments : List Segment) :
    segmentsOf (pathText segments) = segments.flatMap fun segment => segmentsOf segment.text := by
  -- From behind: what is appended starts with a slash, as `segmentsOf_append` asks for.
  induction segments using List.reverseRecOn with
  | nil => rfl
  | append_singleton segments last ih =>
    have hslash : StartsWithSlash ("/" ++ last.text) := by simp [StartsWithSlash]
    rw [pathText_concat, segmentsOf_append hslash, ih, segmentsOf_slash_append,
      List.flatMap_append, List.flatMap_singleton]

theorem segmentsOf_pathText_eq_iff {segments : List Segment} :
    segmentsOf (pathText segments) = segments ↔ ∀ segment ∈ segments, segment.Fits := by
  constructor
  · intro h segment hsegment
    rw [← h] at hsegment
    exact fits_of_mem_segmentsOf hsegment
  · intro h
    have hone : ∀ segment ∈ segments, segmentsOf segment.text = [segment] :=
      fun segment hsegment => segmentsOf_text_eq_iff.2 (h segment hsegment)
    rw [segmentsOf_pathText, List.flatMap_congr hone, List.flatMap_singleton']

/-- A path is written as its pieces that are not empty, each behind a slash. -/
theorem pathText_segmentsOf (uri : String) :
    pathText (segmentsOf uri)
      = String.ofList (((uri.toList.splitOn '/').filter (· ≠ [])).flatMap fun piece =>
          '/' :: piece) := by
  rw [← String.toList_inj, String.toList_ofList, ← slashPieces_eq_splitOn, pathText, segmentsOf,
    pathPieces, String.toList_join, List.flatMap_map, List.flatMap_map, List.flatMap_map]
  simp [Segment.text_ofPiece]

/-- **Paths and segments are the same up to empty pieces, as far as segments fit into paths.**  A
path comes back without its empty pieces and is cut as before; a list of segments comes back just if
each of them fits into a path.  The path that is shown for them is cut like the one that is
written. -/
theorem segments_round_trip :
    (∀ piece, (Segment.ofPiece piece).text = piece)
    ∧ (∀ uri, pathText (segmentsOf uri)
          = String.ofList (((uri.toList.splitOn '/').filter (· ≠ [])).flatMap fun piece =>
              '/' :: piece)
        ∧ segmentsOf (pathText (segmentsOf uri)) = segmentsOf uri)
    ∧ ∀ segments, (segmentsOf (pathText segments) = segments ↔ ∀ segment ∈ segments, segment.Fits)
        ∧ segmentsOf (Naming.shownPath segments) = segmentsOf (pathText segments) := by
  refine ⟨Segment.text_ofPiece, fun uri => ⟨pathText_segmentsOf uri, ?_⟩, fun segments =>
    ⟨segmentsOf_pathText_eq_iff, ?_⟩⟩
  · exact segmentsOf_pathText_eq_iff.2 fun segment => fits_of_mem_segmentsOf
  · cases segments with
    | nil => rfl
    | cons segment rest => rfl

/-- Lone braces and an empty name come back. -/
example : segmentsOf "//\x7b/\x7b\x7d/a\x7d/" = [.literal "\x7b", .parameter "", .literal "a\x7d"]
    ∧ pathText [.literal "\x7b", .parameter "", .literal "a\x7d"] = "/\x7b/\x7b\x7d/a\x7d" := by
  decide +kernel

end RamlExpress
