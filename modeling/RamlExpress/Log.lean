import RamlExpress.Failure

/-!
# Log — log lines, and computations that write them

A logged computation gives the lines it wrote and its result.  What it wrote before it failed stays
written.
-/

namespace RamlExpress

/-- How much a log line matters. -/
inductive LogLevel where
  | debug
  | info
  | warn
deriving Repr, DecidableEq

/-- The name of a level in a log. -/
def LogLevel.name : LogLevel → String
  | debug => "DEBUG"
  | info => "INFO"
  | warn => "WARN"

/-- A line of a log. -/
structure LogLine where
  level : LogLevel
  text : String
deriving Repr, DecidableEq

/-- The texts of the warnings in a log. -/
def warnings (log : List LogLine) : List String :=
  (log.filter (·.level = .warn)).map (·.text)

/-- A computation that writes log lines and may fail. -/
structure Logged (α : Type) where
  log : List LogLine := []
  result : Except Failure α

namespace Logged

variable {α β : Type}

/-- Runs `next` on a result, behind what was logged so far. -/
def andThen (first : Logged α) (next : α → Logged β) : Logged β :=
  match first.result with
  | .error failure => { log := first.log, result := .error failure }
  | .ok value =>
    let second := next value
    { log := first.log ++ second.log, result := second.result }

instance : Monad Logged where
  pure value := { result := .ok value }
  bind := andThen

@[simp] theorem result_pure (value : α) : (pure value : Logged α).result = .ok value := rfl

/-- Logging does not touch results. -/
@[simp] theorem result_bind (first : Logged α) (next : α → Logged β) :
    (first >>= next).result = first.result >>= fun value => (next value).result := by
  show (andThen first next).result = _
  unfold andThen
  cases first.result <;> rfl

/-- A failure, with nothing logged. -/
def fail (failure : Failure) : Logged α := { result := .error failure }

/-- A result, with nothing logged. -/
def of (result : Except Failure α) : Logged α := { result }

/-- Writes one line. -/
def note (level : LogLevel) (text : String) : Logged Unit :=
  { log := [⟨level, text⟩], result := .ok () }

/-- Writes a line for those who look for faults. -/
def debug (text : String) : Logged Unit := note .debug text

/-- Writes a line for everyone. -/
def info (text : String) : Logged Unit := note .info text

/-- Writes a warning. -/
def warn (text : String) : Logged Unit := note .warn text

end Logged

end RamlExpress
