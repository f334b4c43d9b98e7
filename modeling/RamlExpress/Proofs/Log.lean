import RamlExpress.Log

/-!
# Proofs/Log — results, logged and not

A chain of computations succeeds exactly when each of them does.  A line that is logged has no part
in a result.  What a chain warns of is what its parts warn of, one after the other (`Logged.Gives`),
and most parts are quiet.
-/

namespace RamlExpress

variable {ε α β : Type}

@[simp] theorem ok_bind (value : α) (next : α → Except ε β) :
    (Except.ok value >>= next) = next value := rfl

theorem error_bind (fault : ε) (next : α → Except ε β) :
    (Except.error fault >>= next) = .error fault := rfl

/-- **A chain succeeds iff both parts do.** -/
theorem bind_eq_ok_iff {first : Except ε α} {next : α → Except ε β} {result : β} :
    (first >>= next) = .ok result ↔ ∃ value, first = .ok value ∧ next value = .ok result := by
  cases first with
  | error fault => simp [error_bind]
  | ok value => simp

/-- A success, known by a view of it. -/
theorem exists_ok_of_toOption {result : Except ε α} (view : α → β) {seen : β}
    (h : result.toOption.map view = some seen) :
    ∃ value, result = .ok value ∧ view value = seen := by
  cases result with
  | error fault => contradiction
  | ok value => exact ⟨value, rfl, Option.some.inj h⟩

theorem exists_error_of_toOption {result : Except ε α} (h : result.toOption = none) :
    ∃ fault, result = .error fault := by
  cases result with
  | error fault => exact ⟨fault, rfl⟩
  | ok value => contradiction

namespace Logged

@[simp] theorem result_of (result : Except Failure α) : (of result).result = result := rfl

@[simp] theorem result_map (give : α → β) (first : Logged α) :
    (give <$> first).result = first.result.map give := by
  change (first >>= fun value => pure (give value)).result = _
  rw [result_bind]
  cases first.result <;> rfl

theorem result_foldlM (step : α → β → Logged α) (items : List β) (start : α) :
    (items.foldlM step start).result
      = items.foldlM (fun done item => (step done item).result) start := by
  induction items generalizing start with
  | nil => rfl
  | cons item rest ih => simp only [List.foldlM_cons, result_bind, ih]

@[simp] theorem result_debug (text : String) : (debug text).result = .ok () := rfl

@[simp] theorem result_info (text : String) : (info text).result = .ok () := rfl

/-! ## Chains that start with a result or a line -/

theorem of_ok_bind (value : α) (next : α → Logged β) : (of (.ok value) >>= next) = next value := rfl

theorem of_error_bind (failure : Failure) (next : α → Logged β) :
    (of (.error failure) >>= next) = fail failure := rfl

/-- A computation behind a line of the log. -/
def behind (line : LogLine) (logged : Logged α) : Logged α :=
  { logged with log := line :: logged.log }

@[simp] theorem result_behind (line : LogLine) (logged : Logged α) :
    (logged.behind line).result = logged.result := rfl

@[simp] theorem log_behind (line : LogLine) (logged : Logged α) :
    (logged.behind line).log = line :: logged.log := rfl

theorem debug_bind (text : String) (next : Unit → Logged β) :
    (debug text >>= next) = (next ()).behind ⟨.debug, text⟩ := rfl

/-! ## Warnings -/

/-- **A computation gives a value**, after some warnings. -/
def Gives (logged : Logged α) (value : α) (warned : List String) : Prop :=
  logged.result = .ok value ∧ warnings logged.log = warned

theorem warnings_append (first second : List LogLine) :
    warnings (first ++ second) = warnings first ++ warnings second := by
  simp [warnings]

theorem log_bind_of_ok {first : Logged α} {value : α} (h : first.result = .ok value)
    (next : α → Logged β) : (first >>= next).log = first.log ++ (next value).log := by
  change (first.andThen next).log = _
  rw [andThen, h]

theorem log_bind_of_error {first : Logged α} {failure : Failure}
    (h : first.result = .error failure) (next : α → Logged β) :
    (first >>= next).log = first.log := by
  change (first.andThen next).log = _
  rw [andThen, h]

/-- **A chain warns of what its parts warn of.** -/
theorem gives_bind_iff {first : Logged α} {next : α → Logged β} {result : β}
    {warned : List String} :
    (first >>= next).Gives result warned ↔ ∃ value before after,
      first.Gives value before ∧ (next value).Gives result after ∧ warned = before ++ after := by
  simp only [Gives, result_bind, bind_eq_ok_iff]
  constructor
  · rintro ⟨⟨value, hfirst, hnext⟩, rfl⟩
    rw [log_bind_of_ok hfirst, warnings_append]
    exact ⟨value, _, _, ⟨hfirst, rfl⟩, ⟨hnext, rfl⟩, rfl⟩
  · rintro ⟨value, _, _, ⟨hfirst, rfl⟩, ⟨hnext, rfl⟩, rfl⟩
    rw [log_bind_of_ok hfirst, warnings_append]
    exact ⟨⟨value, hfirst, hnext⟩, rfl⟩

theorem gives_pure_iff {value other : α} {warned : List String} :
    (pure value : Logged α).Gives other warned ↔ value = other ∧ warned = [] := by
  change Except.ok value = Except.ok other ∧ [] = warned ↔ _
  rw [Except.ok.injEq, eq_comm (a := [])]

theorem gives_warn_iff {text : String} {value : Unit} {warned : List String} :
    (warn text).Gives value warned ↔ warned = [text] := by
  change Except.ok () = Except.ok value ∧ [text] = warned ↔ _
  simp [eq_comm]

/-- **A computation that warns of nothing**, whether it succeeds or not. -/
def Quiet (logged : Logged α) : Prop := warnings logged.log = []

theorem Quiet.gives_iff {logged : Logged α} (h : logged.Quiet) {value : α} {warned : List String} :
    logged.Gives value warned ↔ logged.result = .ok value ∧ warned = [] := by
  rw [Gives, h, eq_comm (a := [])]

/-- What comes behind a quiet computation does all the warning. -/
theorem Quiet.gives_bind_iff {first : Logged α} (h : first.Quiet) {next : α → Logged β}
    {result : β} {warned : List String} :
    (first >>= next).Gives result warned
      ↔ ∃ value, first.result = .ok value ∧ (next value).Gives result warned := by
  rw [Logged.gives_bind_iff]
  constructor
  · rintro ⟨value, before, after, hfirst, hnext, rfl⟩
    obtain ⟨hvalue, rfl⟩ := h.gives_iff.1 hfirst
    exact ⟨value, hvalue, hnext⟩
  · rintro ⟨value, hvalue, hnext⟩
    exact ⟨value, [], warned, h.gives_iff.2 ⟨hvalue, rfl⟩, hnext, rfl⟩

theorem quiet_pure (value : α) : (pure value : Logged α).Quiet := rfl

theorem quiet_of (result : Except Failure α) : (of result).Quiet := rfl

theorem quiet_fail (failure : Failure) : (fail failure : Logged α).Quiet := rfl

theorem quiet_debug (text : String) : (debug text).Quiet := rfl

theorem Quiet.bind {first : Logged α} {next : α → Logged β} (h : first.Quiet)
    (hnext : ∀ value, (next value).Quiet) : (first >>= next).Quiet := by
  cases hresult : first.result with
  | error failure => rw [Quiet, log_bind_of_error hresult, h]
  | ok value => rw [Quiet, log_bind_of_ok hresult, warnings_append, h, hnext value, List.nil_append]

theorem Quiet.map {logged : Logged α} (h : logged.Quiet) (give : α → β) : (give <$> logged).Quiet :=
  h.bind fun value => quiet_pure (give value)

theorem quiet_foldlM {step : α → β → Logged α} (h : ∀ done item, (step done item).Quiet)
    (items : List β) (start : α) : (items.foldlM step start).Quiet := by
  induction items generalizing start with
  | nil => exact quiet_pure start
  | cons item rest ih => exact (h start item).bind ih

end Logged

end RamlExpress
