import Mathlib.Data.List.Nodup
import Mathlib.Order.Bounds.Basic
import RamlExpress.Fragment

/-!
# Proofs/Selection — the success response is an exact minimum

The response that counts is the first of the lowest: everything before it ranks strictly above it,
and nothing behind it ranks below (`exists_of_lowest?`).  Where no two successes rank the same,
the order of the responses has no say in it, nor in what becomes of the method.

* `statusRank_eq_decimalKey` — the rank of a success is its decimal value, cut off at 65535.
* `success_is_lowest` — which response counts, and that permutations do not change it.
-/

namespace RamlExpress

/-! ## Ranks -/

/-- **The number that a status ranks by**: its decimal value if it consists of digits and is at most
65535, and else 65535. -/
def decimalKey (status : String) : Nat :=
  if status.toList.all Char.isDigit ∧ Nat.ofDigitChars 10 status.toList 0 ≤ 65535 then
    Nat.ofDigitChars 10 status.toList 0
  else 65535

/-- No sign stands in front of a success. -/
theorem statusNumber?_of_isSuccess {status : String} (h : isSuccess status = true) :
    statusNumber? status =
      if status.toList.all Char.isDigit ∧ Nat.ofDigitChars 10 status.toList 0 ≤ 65535 then
        some (Nat.ofDigitChars 10 status.toList 0)
      else none := by
  obtain ⟨rest, hstatus⟩ : ∃ rest, status.toList = '2' :: rest :=
    List.head?_eq_some_iff.1 (by simpa [isSuccess] using h)
  have hvalue : ('2' :: rest).foldl (fun n c => n * 10 + (c.toNat - '0'.toNat)) 0
      = Nat.ofDigitChars 10 ('2' :: rest) 0 := by
    simp only [Nat.ofDigitChars, Nat.mul_comm]
  rw [statusNumber?, hstatus]
  change (if !('2' :: rest).all Char.isDigit then none
    else if ('2' :: rest).foldl (fun n c => n * 10 + (c.toNat - '0'.toNat)) 0 ≤ 65535 then
      some (('2' :: rest).foldl (fun n c => n * 10 + (c.toNat - '0'.toNat)) 0)
    else none) = _
  rw [hvalue]
  cases ('2' :: rest).all Char.isDigit with
  | false => rfl
  | true => simp

theorem statusRank_eq_decimalKey {status : String} (h : isSuccess status = true) :
    statusRank status = decimalKey status := by
  rw [statusRank, statusNumber?_of_isSuccess h, decimalKey]
  split <;> rfl

/-! ## The first of the lowest -/

theorem lowest?_eq_none_iff {responses : List Response} :
    lowest? responses = none ↔ responses = [] := by
  cases responses with
  | nil => simp [lowest?]
  | cons first rest => grind [lowest?]

/-- **The first of the lowest**: what stands before it ranks above it, and nothing behind it ranks
below. -/
theorem exists_of_lowest? {responses : List Response} {response : Response}
    (h : lowest? responses = some response) :
    ∃ before after, responses = before ++ response :: after
      ∧ (∀ other ∈ before, statusRank response.status < statusRank other.status)
      ∧ ∀ other ∈ after, statusRank response.status ≤ statusRank other.status := by
  induction responses generalizing response with
  | nil => contradiction
  | cons first rest ih =>
    rw [lowest?] at h
    cases hrest : lowest? rest with
    | none =>
      simp only [hrest, Option.some.injEq] at h
      subst h
      obtain rfl := lowest?_eq_none_iff.1 hrest
      exact ⟨[], [], rfl, by simp, by simp⟩
    | some other =>
      obtain ⟨before, after, rfl, hbefore, hafter⟩ := ih hrest
      simp only [hrest] at h
      split at h
      · rename_i hlower
        obtain rfl := Option.some.inj h
        exact ⟨first :: before, after, rfl, List.forall_mem_cons.2 ⟨hlower, hbefore⟩, hafter⟩
      · rename_i hlower
        obtain rfl := Option.some.inj h
        refine ⟨[], before ++ other :: after, rfl, by simp, fun later hlater => ?_⟩
        have hother : statusRank first.status ≤ statusRank other.status := Nat.not_lt.1 hlower
        obtain hlater | rfl | hlater : later ∈ before ∨ later = other ∨ later ∈ after := by
          simpa using hlater
        · exact Nat.le_trans hother (Nat.le_of_lt (hbefore later hlater))
        · exact hother
        · exact Nat.le_trans hother (hafter later hlater)

/-! ## The success response -/

/-- **A success that none of some responses ranks below.** -/
structure IsLowest (responses : List Response) (response : Response) : Prop where
  success : isSuccess response.status = true
  le : ∀ other ∈ responses, isSuccess other.status = true →
    decimalKey response.status ≤ decimalKey other.status

/-- The places of the lowest successes. -/
def lowestPlaces (responses : List Response) : Set Nat :=
  { i | ∃ response, responses[i]? = some response ∧ IsLowest responses response }

variable {responses responses' : List Response} {response : Response}

theorem successResponse?_eq_none_iff :
    successResponse? responses = none
      ↔ ∀ response ∈ responses, isSuccess response.status = false := by
  rw [successResponse?, lowest?_eq_none_iff, List.filter_eq_nil_iff]
  simp only [Bool.not_eq_true]

/-- The success response is a lowest one, and every success before it ranks above it. -/
theorem exists_of_successResponse? (h : successResponse? responses = some response) :
    IsLowest responses response ∧ ∃ before after, responses = before ++ response :: after
      ∧ ∀ other ∈ before, isSuccess other.status = true →
        decimalKey response.status < decimalKey other.status := by
  obtain ⟨front, back, hfilter, hfront, hback⟩ := exists_of_lowest? h
  obtain ⟨before, behind, rfl, rfl, hbehind⟩ := List.filter_eq_append_iff.1 hfilter
  obtain ⟨skipped, after, rfl, hskipped, hsuccess, rfl⟩ := List.filter_eq_cons_iff.1 hbehind
  have hbefore : ∀ other ∈ before ++ skipped, isSuccess other.status = true →
      decimalKey response.status < decimalKey other.status := by
    intro other hother hsuccess'
    rw [← statusRank_eq_decimalKey hsuccess, ← statusRank_eq_decimalKey hsuccess']
    obtain hmem | hmem := List.mem_append.1 hother
    · exact hfront other (List.mem_filter.2 ⟨hmem, hsuccess'⟩)
    · exact absurd hsuccess' (hskipped other hmem)
  have hafter : ∀ other ∈ after, isSuccess other.status = true →
      decimalKey response.status ≤ decimalKey other.status := by
    intro other hother hsuccess'
    rw [← statusRank_eq_decimalKey hsuccess, ← statusRank_eq_decimalKey hsuccess']
    exact hback other (List.mem_filter.2 ⟨hother, hsuccess'⟩)
  refine ⟨⟨hsuccess, fun other hother hsuccess' => ?_⟩, before ++ skipped, after, by simp, hbefore⟩
  rw [← List.append_assoc, List.mem_append, List.mem_cons] at hother
  obtain hmem | rfl | hmem := hother
  · exact (hbefore other hmem hsuccess').le
  · exact le_rfl
  · exact hafter other hmem hsuccess'

/-- **The success response stands at the first of the lowest places.** -/
theorem exists_isLeast_of_successResponse? (h : successResponse? responses = some response) :
    ∃ i, IsLeast (lowestPlaces responses) i ∧ responses[i]? = some response := by
  obtain ⟨hlowest, before, after, rfl, hbefore⟩ := exists_of_successResponse? h
  refine ⟨before.length, ⟨⟨response, by simp, hlowest⟩, ?_⟩, by simp⟩
  rintro j ⟨other, hother, hlowest'⟩
  refine le_of_not_gt fun hlt => ?_
  rw [List.getElem?_append_left hlt] at hother
  exact (hlowest'.le response (by simp) hlowest.success).not_gt
    (hbefore other (List.mem_of_getElem? hother) hlowest'.success)

/-- Where a response is a success, one counts. -/
theorem exists_successResponse? (hmem : response ∈ responses)
    (h : isSuccess response.status = true) :
    ∃ found, successResponse? responses = some found := by
  refine Option.ne_none_iff_exists'.1 fun hnone => ?_
  have hfails := successResponse?_eq_none_iff.1 hnone response hmem
  rw [h] at hfails
  contradiction

theorem successResponse?_eq_some_iff :
    successResponse? responses = some response
      ↔ ∃ i, IsLeast (lowestPlaces responses) i ∧ responses[i]? = some response := by
  refine ⟨exists_isLeast_of_successResponse?, ?_⟩
  rintro ⟨i, hleast, hresponse⟩
  obtain ⟨other, hother, hlowest⟩ := hleast.1
  obtain ⟨found, hfound⟩ := exists_successResponse? (List.mem_of_getElem? hother) hlowest.success
  obtain ⟨j, hleast', hfound'⟩ := exists_isLeast_of_successResponse? hfound
  obtain rfl := hleast.unique hleast'
  rw [hfound, ← hfound', hresponse]

/-! ## Permutations -/

/-- **No two successes rank the same.** -/
def RankedApart (responses : List Response) : Prop :=
  ((responses.filter fun response => isSuccess response.status).map
    fun response => decimalKey response.status).Nodup

theorem RankedApart.eq_of_isLowest (h : RankedApart responses) {other : Response}
    (hmem : response ∈ responses) (hlowest : IsLowest responses response)
    (hmem' : other ∈ responses) (hlowest' : IsLowest responses other) : response = other := by
  have hkeys : decimalKey response.status = decimalKey other.status :=
    le_antisymm (hlowest.le other hmem' hlowest'.success)
      (hlowest'.le response hmem hlowest.success)
  exact List.inj_on_of_nodup_map h (List.mem_filter.2 ⟨hmem, hlowest.success⟩)
    (List.mem_filter.2 ⟨hmem', hlowest'.success⟩) hkeys

theorem mem_of_successResponse? (h : successResponse? responses = some response) :
    response ∈ responses := by
  obtain ⟨-, before, after, rfl, -⟩ := exists_of_successResponse? h
  simp

/-- **The order of responses does not matter** where no two successes rank the same. -/
theorem RankedApart.successResponse?_perm (h : RankedApart responses)
    (hperm : responses.Perm responses') :
    successResponse? responses' = successResponse? responses := by
  cases hfound : successResponse? responses with
  | none =>
    rw [successResponse?_eq_none_iff] at hfound ⊢
    exact fun response hmem => hfound response (hperm.mem_iff.2 hmem)
  | some found =>
    have hmem := mem_of_successResponse? hfound
    obtain ⟨hlowest, -⟩ := exists_of_successResponse? hfound
    obtain ⟨found', hfound'⟩ :=
      exists_successResponse? (hperm.mem_iff.1 hmem) hlowest.success
    have hmem' := hperm.mem_iff.2 (mem_of_successResponse? hfound')
    obtain ⟨⟨hsuccess, hle⟩, -⟩ := exists_of_successResponse? hfound'
    have hlowest' : IsLowest responses found' :=
      ⟨hsuccess, fun other hother => hle other (hperm.mem_iff.1 hother)⟩
    rw [hfound', h.eq_of_isLowest hmem hlowest hmem' hlowest']

/-- What becomes of a method depends on its responses by the one that counts. -/
theorem handlerAt_congr (h : successResponse? responses' = successResponse? responses)
    (method : Method) (uri : String) (segments : List Segment) :
    { method with responses := responses' }.handlerAt uri segments
      = { method with responses }.handlerAt uri segments := by
  have hfields (context : String) :
      { method with responses := responses' }.responseFields context
        = { method with responses }.responseFields context := by
    simp only [Method.responseFields, h]
  simp only [Method.handlerAt, hfields]
  rfl

/-- **The success response is an exact minimum.**  None counts just if none is a success; else the
one that counts is at the first of the lowest places.  If no two successes rank the same, responses
in another order have the same success response, and the method becomes the same. -/
theorem success_is_lowest (responses : List Response) :
    (successResponse? responses = none
      ↔ ∀ response ∈ responses, isSuccess response.status = false)
    ∧ (∀ response, successResponse? responses = some response
      ↔ ∃ i, IsLeast (lowestPlaces responses) i ∧ responses[i]? = some response)
    ∧ (RankedApart responses → ∀ responses', responses.Perm responses' →
      successResponse? responses' = successResponse? responses
      ∧ ∀ (method : Method) (uri : String) (segments : List Segment),
        { method with responses := responses' }.handlerAt uri segments
          = { method with responses }.handlerAt uri segments) := by
  refine ⟨successResponse?_eq_none_iff, fun response => successResponse?_eq_some_iff,
    fun hapart responses' hperm => ?_⟩
  have hsame := hapart.successResponse?_perm hperm
  exact ⟨hsame, handlerAt_congr hsame⟩

/-- Responses of which one is no success, and one no number. -/
def mixedResponses : List Response :=
  [{ status := "100" }, { status := "2XX" }, { status := "204" }, { status := "200" }]

theorem success_is_lowest_mixedResponses :
    RankedApart mixedResponses
      ∧ (∃ i, IsLeast (lowestPlaces mixedResponses) i
        ∧ mixedResponses[i]? = some { status := "200" })
      ∧ successResponse? mixedResponses.reverse = some { status := "200" } := by
  have hapart : RankedApart mixedResponses := by
    unfold RankedApart
    decide +kernel
  have hfound : successResponse? mixedResponses = some { status := "200" } := by decide +kernel
  obtain ⟨-, hplace, hperm⟩ := success_is_lowest mixedResponses
  refine ⟨hapart, (hplace _).1 hfound, ?_⟩
  rw [(hperm hapart _ (List.reverse_perm _).symm).1, hfound]

end RamlExpress
