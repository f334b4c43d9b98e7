import RamlExpress.Proofs.Route

/-!
# Proofs/Route/Inverse — paths read back from their patterns

    /stores/{id}  ──▸  /stores/:id  ──▸  /stores/{id}

A pattern is made character by character, and a piece of it that starts with a colon is put back
into braces.  The two agree piece by piece (`restored_patternChars`), as long as braces stand around
parameters only and no literal starts like one.

* `Route.uriOf_patternOf` — a well-formed path is read back from its pattern.
* `Route.patternOf_lossless` — so different paths have different patterns.
-/

namespace RamlExpress.Route

/-- **A well-formed piece**: a parameter in braces, or a literal that does not start like a
parameter of a pattern.  There are no other braces, but a name may be empty or start with a
colon. -/
inductive WellFormedPiece : List Char → Prop
  | parameter {name : List Char} : '\x7b' ∉ name → '\x7d' ∉ name →
    WellFormedPiece ('\x7b' :: name ++ ['\x7d'])
  | literal {text : List Char} : '\x7b' ∉ text → '\x7d' ∉ text → text.head? ≠ some ':' →
    WellFormedPiece text

/-- **A well-formed path**; empty pieces are literals. -/
def WellFormed (uri : String) : Prop := ∀ piece ∈ uri.toList.splitOn '/', WellFormedPiece piece

/-- A piece of a pattern as it stands in a path. -/
def restored : List Char → List Char
  | ':' :: name => '\x7b' :: name ++ ['\x7d']
  | piece => piece

/-- **The path of a pattern.** -/
def uriOf (pattern : String) : String :=
  String.ofList (['/'].intercalate ((pattern.toList.splitOn '/').map restored))

theorem restored_of_head? {piece : List Char} (h : piece.head? ≠ some ':') :
    restored piece = piece := by
  cases piece with
  | nil => rfl
  | cons c rest =>
    have hc : c ≠ ':' := by simpa using h
    simp [restored, hc]

/-- **A well-formed piece is read back from its pattern.** -/
theorem restored_patternChars {piece : List Char} (h : WellFormedPiece piece) :
    restored (patternChars piece) = piece := by
  cases h with
  | parameter hopening hclosing =>
    rw [patternChars_braced, patternChars_eq_self hopening hclosing]
    rfl
  | literal hopening hclosing hcolon =>
    rw [patternChars_eq_self hopening hclosing, restored_of_head? hcolon]

/-- **A well-formed path is read back from its pattern.** -/
theorem uriOf_patternOf {uri : String} (h : WellFormed uri) : uriOf (patternOf uri) = uri := by
  have hpieces : ((uri.toList.splitOn '/').map patternChars).map restored
      = uri.toList.splitOn '/' := by
    rw [List.map_map]
    refine (List.map_congr_left fun piece hpiece => ?_).trans (List.map_id _)
    exact restored_patternChars (h piece hpiece)
  rw [uriOf, patternOf, String.toList_ofList, ← slashPieces_eq_splitOn, slashPieces_patternChars,
    slashPieces_eq_splitOn, hpieces, List.intercalate_splitOn, String.ofList_toList]

/-- **Patterns lose nothing of well-formed paths.**  Each is read back from its pattern, so that no
two have the same; and the pattern of a path below another goes on where that of the other ends. -/
theorem patternOf_lossless :
    (∀ uri, WellFormed uri → uriOf (patternOf uri) = uri)
    ∧ (∀ uri other, WellFormed uri → WellFormed other → uri ≠ other →
        patternOf uri ≠ patternOf other)
    ∧ ∀ parent child, patternOf (parent ++ child) = patternOf parent ++ patternOf child := by
  refine ⟨fun uri => uriOf_patternOf, fun uri other huri hother hne heq => hne ?_,
    fun parent child => ?_⟩
  · rw [← uriOf_patternOf huri, heq, uriOf_patternOf hother]
  · rw [patternOf, String.toList_append, patternChars_append, String.ofList_append]
    rfl

/-- An empty name, a name that starts with a colon, a colon inside a literal and empty pieces all
come back. -/
theorem patternOf_lossless_colons :
    let uri := "/\x7b\x7d//a:b/\x7b:id\x7d"
    WellFormed uri ∧ patternOf uri = "/://a:b/::id" ∧ uriOf "/://a:b/::id" = uri
      ∧ patternOf uri ≠ patternOf "" := by
  intro uri
  have hpieces : uri.toList.splitOn '/'
      = [[], ['\x7b', '\x7d'], [], ['a', ':', 'b'], ['\x7b', ':', 'i', 'd', '\x7d']] := by
    decide +kernel
  have huri : WellFormed uri := by
    rw [WellFormed, hpieces]
    simp only [List.forall_mem_cons, List.not_mem_nil, false_imp_iff, implies_true, and_true]
    exact ⟨.literal (by decide) (by decide) (by decide),
      @WellFormedPiece.parameter [] (by decide) (by decide),
      .literal (by decide) (by decide) (by decide),
      .literal (by decide) (by decide) (by decide),
      @WellFormedPiece.parameter [':', 'i', 'd'] (by decide) (by decide)⟩
  have hempty : WellFormed "" :=
    List.forall_mem_singleton.2 (.literal (by decide) (by decide) (by decide))
  have hpattern : patternOf uri = "/://a:b/::id" := by decide +kernel
  exact ⟨huri, hpattern, hpattern ▸ patternOf_lossless.1 uri huri,
    patternOf_lossless.2.1 uri "" huri hempty (by decide)⟩

end RamlExpress.Route
