import RamlExpress.Uri

/-!
# Proofs/Uri — the pieces of a path

A path is cut at every slash, as a list is at any item (`slashPieces_eq_splitOn`).  So the pieces of
a path that goes on with a slash are those of its two halves, and no piece holds what the path does
not.

* `segmentsOf_append` — the segments of a path that goes on with a slash.
* `unbraced?_eq_some_iff` — the pieces that are parameters.
-/

namespace RamlExpress

/-- The pieces are those that a list is cut into at slashes. -/
theorem slashPieces_eq_splitOn (text : List Char) : slashPieces text = text.splitOn '/' := by
  induction text with
  | nil => rfl
  | cons c rest ih =>
    obtain ⟨piece, pieces, hpieces⟩ := List.exists_cons_of_ne_nil (List.splitOn_ne_nil '/' rest)
    rw [List.splitOn_cons_eq_if_modifyHead, slashPieces, ih, hpieces]
    by_cases hc : c = '/' <;> simp [hc]

theorem slashPieces_ne_nil (text : List Char) : slashPieces text ≠ [] := by
  rw [slashPieces_eq_splitOn]
  exact List.splitOn_ne_nil '/' text

/-- A slash always cuts. -/
theorem slashPieces_append_slash (front back : List Char) :
    slashPieces (front ++ '/' :: back) = slashPieces front ++ slashPieces back := by
  simp only [slashPieces_eq_splitOn, List.splitOn_eq_splitOnP]
  exact List.splitOnP_append_cons front back rfl

/-- A path that starts with a slash. -/
def StartsWithSlash (uri : String) : Prop := uri.toList.head? = some '/'

instance (uri : String) : Decidable (StartsWithSlash uri) :=
  inferInstanceAs (Decidable (uri.toList.head? = some '/'))

/-- The piece before the slash of a path that starts with one is empty, and is dropped. -/
theorem pathPieces_append {back : String} (h : StartsWithSlash back) (front : String) :
    pathPieces (front ++ back) = pathPieces front ++ pathPieces back := by
  obtain ⟨rest, hback⟩ : ∃ rest, back.toList = '/' :: rest := by
    rw [StartsWithSlash] at h
    cases hlist : back.toList with
    | nil => simp [hlist] at h
    | cons c rest =>
      obtain rfl : c = '/' := by simpa [hlist] using h
      exact ⟨rest, rfl⟩
  simp only [pathPieces, String.toList_append, hback, slashPieces_append_slash, slashPieces,
    if_true, List.filter_append, List.filter_cons, List.map_append]
  simp

/-- **The segments of a path that goes on with a slash** are those of its two halves. -/
theorem segmentsOf_append {back : String} (h : StartsWithSlash back) (front : String) :
    segmentsOf (front ++ back) = segmentsOf front ++ segmentsOf back := by
  simp only [segmentsOf, pathPieces_append h, List.map_append]

/-! ## Characters of a piece -/

theorem slash_notMem_of_mem_slashPieces {text piece : List Char} (h : piece ∈ slashPieces text) :
    '/' ∉ piece := by
  induction text generalizing piece with
  | nil =>
    obtain rfl := List.mem_singleton.1 h
    exact List.not_mem_nil
  | cons c rest ih =>
    obtain ⟨first, others, hrest⟩ := List.exists_cons_of_ne_nil (slashPieces_ne_nil rest)
    rw [hrest] at ih
    by_cases hc : c = '/'
    · rw [slashPieces, if_pos hc, hrest] at h
      obtain rfl | hmem := List.mem_cons.1 h
      · exact List.not_mem_nil
      · exact ih hmem
    · simp only [slashPieces, if_neg hc, hrest] at h
      obtain rfl | hmem := List.mem_cons.1 h
      · exact List.not_mem_cons_of_ne_of_not_mem (Ne.symm hc) (ih List.mem_cons_self)
      · exact ih (List.mem_cons_of_mem _ hmem)

theorem slashPieces_of_notMem {text : List Char} (h : '/' ∉ text) : slashPieces text = [text] := by
  rw [slashPieces_eq_splitOn, List.splitOn_eq_splitOnP]
  exact List.splitOnP_eq_singleton fun c hc => beq_eq_false_iff_ne.2 fun heq => h (heq ▸ hc)

theorem mem_of_mem_slashPieces {c : Char} : ∀ {text piece : List Char}, piece ∈ slashPieces text →
    c ∈ piece → c ∈ text
  | [], piece, hpiece, hc => by
    obtain rfl := List.mem_singleton.1 hpiece
    exact hc
  | d :: rest, piece, hpiece, hc => by
    rw [slashPieces] at hpiece
    split at hpiece
    · obtain rfl | hrest := List.mem_cons.1 hpiece
      · contradiction
      · exact List.mem_cons_of_mem _ (mem_of_mem_slashPieces hrest hc)
    · obtain ⟨first, pieces, hpieces⟩ := List.exists_cons_of_ne_nil (slashPieces_ne_nil rest)
      have hmem (piece : List Char) (hpiece : piece ∈ first :: pieces) (hc : c ∈ piece) :
          c ∈ rest :=
        mem_of_mem_slashPieces (hpieces ▸ hpiece) hc
      rw [hpieces] at hpiece
      obtain rfl | hrest := List.mem_cons.1 hpiece
      · exact List.mem_cons.2 ((List.mem_cons.1 hc).imp_right (hmem first List.mem_cons_self))
      · exact List.mem_cons_of_mem _ (hmem piece (List.mem_cons_of_mem _ hrest) hc)

theorem mem_of_mem_pathPieces {c : Char} {uri piece : String} (h : piece ∈ pathPieces uri)
    (hc : c ∈ piece.toList) : c ∈ uri.toList := by
  obtain ⟨chars, hchars, rfl⟩ := List.mem_map.1 h
  rw [String.toList_ofList] at hc
  exact mem_of_mem_slashPieces (List.mem_filter.1 hchars).1 hc

theorem ne_empty_of_mem_pathPieces {uri piece : String} (h : piece ∈ pathPieces uri) :
    piece ≠ "" := by
  obtain ⟨chars, hchars, rfl⟩ := List.mem_map.1 h
  simpa using (List.mem_filter.1 hchars).2

/-! ## Braces -/

theorem unbraced?_eq_some_iff {piece name : List Char} :
    unbraced? piece = some name ↔ piece = '\x7b' :: name ++ ['\x7d'] := by
  constructor
  · intro h
    unfold unbraced? at h
    split at h
    · rename_i rest
      split at h
      · rename_i hlast
        obtain ⟨front, rfl⟩ := List.getLast?_eq_some_iff.1 hlast
        rw [List.dropLast_concat] at h
        rw [Option.some.inj h, List.cons_append]
      · contradiction
    · contradiction
  · rintro rfl
    simp [unbraced?]

end RamlExpress
