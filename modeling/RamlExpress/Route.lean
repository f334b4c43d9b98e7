import RamlExpress.Uri

/-!
# Route — route patterns and the parameters they bind

A route pattern is a path in which `{name}` has become `:name`.  A piece of a pattern that starts
with a colon binds a parameter; the last parameter selects the stored item.
-/

namespace RamlExpress.Route

/-- The characters of a pattern: closing braces go, an opening brace becomes a colon. -/
def patternChars (uri : List Char) : List Char :=
  (uri.filter (· ≠ '\x7d')).map fun c => if c = '\x7b' then ':' else c

/-- The route pattern of a path. -/
def patternOf (uri : String) : String := String.ofList (patternChars uri.toList)

/-- The parameter that a piece of a pattern binds. -/
def boundBy? : List Char → Option String
  | ':' :: c :: rest => some (String.ofList (c :: rest))
  | _ => none

/-- The parameters that a pattern binds, in order. -/
def parametersOf (pattern : String) : List String :=
  (slashPieces pattern.toList).filterMap boundBy?

/-- A query for the item that a path parameter names. -/
structure Filter where
  parameter : String
deriving Repr, DecidableEq

/-- A filter as an object literal. -/
def Filter.text (filter : Filter) : String :=
  "\x7b " ++ filter.parameter ++ ": req.params." ++ filter.parameter ++ " \x7d"

/-- A pattern filters on its last parameter. -/
def filterOf? (pattern : String) : Option Filter :=
  (parametersOf pattern).getLast?.map Filter.mk

/-- The filter as a first argument, with the comma behind it; nothing where there is no filter. -/
def filterArgument (pattern : String) : String :=
  match filterOf? pattern with
  | some filter => filter.text ++ ", "
  | none => ""

end RamlExpress.Route
