import RamlExpress.FileSystem.Path
import RamlExpress.Proofs.Uri

/-!
# Proofs/FileSystem/Path — the steps of a path

A path is followed by those of its pieces that lead somewhere, its **steps**.  Its parent keeps the
front of the path as it is written, and all its steps but the last (`steps_of_parent?`); the same
holds of every path above it (`steps_of_mem_ancestorsFrom`).
-/

namespace RamlExpress.Path

/-- **The steps of a path**: the pieces that lead somewhere. -/
def steps (path : String) : List String := (pieces path).filter fun piece => !isIdle piece

/-! ## Pieces -/

theorem pieces_append_slash (front back : String) :
    pieces (front ++ "/" ++ back) = pieces front ++ pieces back := by
  simp [pieces, slashPieces_append_slash]

theorem pieces_slash_append (path : String) : pieces ("/" ++ path) = "" :: pieces path := by
  simp [pieces, slashPieces]

/-- A piece of a path is no longer cut. -/
theorem pieces_of_mem_pieces {path piece : String} (h : piece ∈ pieces path) :
    pieces piece = [piece] := by
  obtain ⟨chars, hchars, rfl⟩ := List.mem_map.1 h
  rw [pieces, String.toList_ofList, slashPieces_of_notMem (slash_notMem_of_mem_slashPieces hchars)]
  rfl

theorem pieces_intercalate {front : List String} (hne : front ≠ [])
    (h : ∀ piece ∈ front, pieces piece = [piece]) : pieces ("/".intercalate front) = front := by
  induction front with
  | nil => contradiction
  | cons piece rest ih =>
    obtain ⟨hpiece, hrest⟩ := List.forall_mem_cons.1 h
    cases rest with
    | nil => rw [String.intercalate_singleton, hpiece]
    | cons next rest =>
      rw [String.intercalate_cons_cons, pieces_append_slash, hpiece, ih (by simp) hrest]
      rfl

theorem steps_intercalate {front : List String} (h : ∀ piece ∈ front, pieces piece = [piece]) :
    steps ("/".intercalate front) = front.filter fun piece => !isIdle piece := by
  by_cases hne : front = []
  · subst hne
    rfl
  · rw [steps, pieces_intercalate hne h]

/-! ## Parents -/

/-- **How a path splits**: its leading slash or leading dot are left out, or nothing is. -/
theorem splitFront_cases (path : String) :
    (∃ body, path = "/" ++ body ∧ splitFront path = ("/", body))
      ∨ (∃ body, path = "." ++ body ∧ (body = "" ∨ ∃ rest, body = "/" ++ rest)
        ∧ splitFront path = (".", body))
      ∨ (isAbsolute path = false ∧ splitFront path = ("", path)) := by
  unfold splitFront
  split
  · rename_i rest hpath
    exact .inl ⟨String.ofList rest, String.toList_inj.1 (by simp [hpath]), rfl⟩
  · rename_i hpath
    exact .inr (.inl ⟨"", String.toList_inj.1 (by simp [hpath]), .inl rfl, rfl⟩)
  · rename_i rest hpath
    refine .inr (.inl ⟨String.ofList ('/' :: rest), String.toList_inj.1 (by simp [hpath]),
      .inr ⟨String.ofList rest, String.toList_inj.1 (by simp)⟩, rfl⟩)
  · rename_i hslash _ _
    refine .inr (.inr ⟨?_, rfl⟩)
    cases hpath : path.toList with
    | nil => simp [isAbsolute, hpath]
    | cons c rest =>
      have hc : c ≠ '/' := fun heq => hslash rest (heq ▸ hpath)
      simpa [isAbsolute, hpath] using hc

/-- What is left out of a path in front is no step. -/
theorem steps_slash_append (path : String) : steps ("/" ++ path) = steps path := by
  rw [steps, pieces_slash_append]
  rfl

theorem steps_dot_append {body : String} (h : body = "" ∨ ∃ rest, body = "/" ++ rest) :
    steps ("." ++ body) = steps body := by
  obtain rfl | ⟨rest, rfl⟩ := h
  · rfl
  · rw [← String.append_assoc, steps, pieces_append_slash, steps_slash_append]
    rfl

theorem filter_dropWhile {α : Type} (p : α → Bool) (items : List α) :
    (items.dropWhile p).filter (fun item => !p item) = items.filter fun item => !p item := by
  induction items with
  | nil => rfl
  | cons item rest ih =>
    cases hp : p item with
    | false => rw [List.dropWhile_cons_of_neg (by simp [hp])]
    | true => simp [List.dropWhile_cons_of_pos, hp, ih]

/-- What is left of a list without its last item that leads somewhere, and without what stands
idle around it. -/
theorem filter_reverse_dropWhile {α : Type} {p : α → Bool} {items rest : List α} {item : α}
    (h : items.reverse.dropWhile p = item :: rest) :
    (rest.dropWhile p).reverse <+: items
      ∧ (rest.dropWhile p).reverse.filter (fun item => !p item)
        = (items.filter fun item => !p item).dropLast := by
  have hkept : rest.dropWhile p <:+ items.reverse :=
    (List.dropWhile_suffix _).trans ((List.suffix_cons _ _).trans (h ▸ List.dropWhile_suffix _))
  have hitem : p item = false := by
    have hhead := List.head?_dropWhile_not p items.reverse
    simpa [h] using hhead
  have hfilter : (items.filter fun item => !p item).reverse
      = item :: rest.filter fun item => !p item := by
    rw [← List.filter_reverse, ← filter_dropWhile, h, List.filter_cons_of_pos (by simp [hitem])]
  refine ⟨by simpa using List.reverse_prefix.2 hkept, ?_⟩
  rw [List.filter_reverse, filter_dropWhile, ← List.reverse_reverse (items.filter _), hfilter]
  simp

/-- **What a parent is**: the front of the path, and the pieces of the rest up to its last step. -/
theorem exists_of_parent? {path parent front body : String} (h : parent? path = some parent)
    (hsplit : splitFront path = (front, body)) :
    front = "." ∧ parent = "" ∧ steps body = []
      ∨ ∃ kept, kept <+: pieces body ∧ parent = front ++ "/".intercalate kept
        ∧ steps ("/".intercalate kept) = (steps body).dropLast := by
  simp only [parent?, hsplit] at h
  split at h
  · rename_i hidle
    split at h
    · rename_i hfront
      refine .inl ⟨hfront, (Option.some.inj h).symm, ?_⟩
      rw [steps, ← List.reverse_eq_nil_iff, ← List.filter_reverse, ← filter_dropWhile, hidle]
      rfl
    · contradiction
  · rename_i piece rest hidle
    obtain ⟨hkept, hfilter⟩ := filter_reverse_dropWhile hidle
    refine .inr ⟨_, hkept, (Option.some.inj h).symm, ?_⟩
    rw [steps_intercalate fun piece hpiece => pieces_of_mem_pieces (hkept.subset hpiece), hfilter]
    rfl

/-- Pieces that stand behind a leading dot are joined to nothing or to something behind a slash. -/
theorem intercalate_behind_dot {body : String} (h : body = "" ∨ ∃ rest, body = "/" ++ rest)
    {kept : List String} (hkept : kept <+: pieces body) :
    "/".intercalate kept = "" ∨ ∃ rest, "/".intercalate kept = "/" ++ rest := by
  obtain ⟨others, hpieces⟩ : ∃ others, pieces body = "" :: others := by
    obtain rfl | ⟨rest, rfl⟩ := h
    · exact ⟨[], rfl⟩
    · exact ⟨pieces rest, pieces_slash_append rest⟩
  rw [hpieces, List.prefix_cons_iff] at hkept
  obtain rfl | ⟨more, rfl, -⟩ := hkept
  · exact .inl rfl
  · cases more with
    | nil => exact .inl rfl
    | cons piece more => exact .inr ⟨_, by rw [String.intercalate_cons_cons]; rfl⟩

/-- **A parent has all steps of the path but the last.** -/
theorem steps_of_parent? {path parent : String} (h : parent? path = some parent) :
    steps parent = (steps path).dropLast := by
  obtain ⟨body, rfl, hsplit⟩ | ⟨body, rfl, hbody, hsplit⟩ | ⟨-, hsplit⟩ := splitFront_cases path
  · obtain ⟨hfront, -⟩ | ⟨kept, -, rfl, hsteps⟩ := exists_of_parent? h hsplit
    · contradiction
    · rw [steps_slash_append, steps_slash_append, hsteps]
  · rw [steps_dot_append hbody]
    obtain ⟨-, rfl, hsteps⟩ | ⟨kept, hkept, rfl, hsteps⟩ := exists_of_parent? h hsplit
    · rw [hsteps]
      rfl
    · rw [steps_dot_append (intercalate_behind_dot hbody hkept), hsteps]
  · obtain ⟨hfront, -⟩ | ⟨kept, -, rfl, hsteps⟩ := exists_of_parent? h hsplit
    · contradiction
    · rw [String.empty_append, hsteps]

/-- A path starts at the root if an empty piece stands before another one. -/
theorem isAbsolute_iff {path : String} :
    isAbsolute path = true ↔ ∃ rest, pieces path = "" :: rest ∧ rest ≠ [] := by
  cases hpath : path.toList with
  | nil => simp [isAbsolute, pieces, hpath, slashPieces]
  | cons c rest =>
    obtain ⟨first, others, hrest⟩ := List.exists_cons_of_ne_nil (slashPieces_ne_nil rest)
    by_cases hc : c = '/'
    · simp [isAbsolute, pieces, hpath, slashPieces, hc, hrest]
    · simp [isAbsolute, pieces, hpath, slashPieces, hc, hrest]

/-- **A parent starts where the path does.** -/
theorem isAbsolute_of_parent? {path parent : String} (h : parent? path = some parent) :
    isAbsolute parent = isAbsolute path := by
  obtain ⟨body, rfl, hsplit⟩ | ⟨body, rfl, hbody, hsplit⟩ | ⟨hpath, hsplit⟩ := splitFront_cases path
  · obtain ⟨hfront, -⟩ | ⟨kept, -, rfl, -⟩ := exists_of_parent? h hsplit
    · contradiction
    · simp [isAbsolute]
  · obtain ⟨-, rfl, -⟩ | ⟨kept, -, rfl, -⟩ := exists_of_parent? h hsplit
    · simp [isAbsolute]
    · simp [isAbsolute]
  · obtain ⟨hfront, -⟩ | ⟨kept, hkept, rfl, -⟩ := exists_of_parent? h hsplit
    · contradiction
    · rw [String.empty_append, hpath]
      refine Bool.eq_false_iff.2 fun habsolute => ?_
      obtain ⟨rest, hpieces, hrest⟩ := isAbsolute_iff.1 habsolute
      have hne : kept ≠ [] := by
        rintro rfl
        exact hrest (List.cons.inj hpieces).2.symm
      rw [pieces_intercalate hne fun piece hpiece =>
        pieces_of_mem_pieces (hkept.subset hpiece)] at hpieces
      subst hpieces
      obtain ⟨others, hothers⟩ := hkept
      have habsolute' : isAbsolute path = true :=
        isAbsolute_iff.2 ⟨rest ++ others, hothers.symm, by simp [hrest]⟩
      rw [hpath] at habsolute'
      contradiction

/-- **The paths above a path** start where it does and have a front of its steps. -/
theorem steps_of_mem_ancestorsFrom {fuel : Nat} {path above : String}
    (h : above ∈ ancestorsFrom fuel path) :
    steps above <+: steps path ∧ isAbsolute above = isAbsolute path := by
  induction fuel generalizing path with
  | zero => contradiction
  | succ fuel ih =>
    rw [ancestorsFrom] at h
    split at h
    · contradiction
    · rename_i parent hparent
      split at h
      · contradiction
      · obtain rfl | hmem := List.mem_cons.1 h
        · exact ⟨List.prefix_rfl, rfl⟩
        · obtain ⟨hsteps, habsolute⟩ := ih hmem
          rw [steps_of_parent? hparent] at hsteps
          rw [isAbsolute_of_parent? hparent] at habsolute
          exact ⟨hsteps.trans (List.dropLast_prefix _), habsolute⟩

end RamlExpress.Path
