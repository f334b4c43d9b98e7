import RamlExpress.Fragment
import RamlExpress.Text.Quoted

/-!
# Scaffold — the routes and models collected from an API

A walk through the resources composes the methods of a resource before those of its children, both
in document order.  A failure ends the walk; what was collected before it stays.
-/

namespace RamlExpress

/-- The fragments and models collected so far. -/
structure Scaffold where
  fragments : List String := []
  models : Registry := .empty

namespace Scaffold

/-- Adds what a method became: its code at the end, its fields under the model name. -/
def add (scaffold : Scaffold) (handler : Handler) : Scaffold where
  fragments := scaffold.fragments ++ handler.fragment.toList
  models := match handler.schema with
    | none => scaffold.models
    | some schema => (scaffold.models.register handler.model schema).1

/-- The line about a model whose fields are replaced. -/
def replacement? (scaffold : Scaffold) (handler : Handler) : Option String := do
  let schema ← handler.schema
  let old ← scaffold.models.get? handler.model
  return handler.verb.display ++ " " ++ handler.pattern ++ " replaces the " ++ handler.model
    ++ " schema " ++ Text.quotedList old.keys ++ " with " ++ Text.quotedList schema.keys

end Scaffold

/-- A walk under way: what was collected, the failure that ended it, and the log. -/
structure Walk where
  scaffold : Scaffold := {}
  failure : Option Failure := none
  log : List LogLine := []

namespace Walk

/-- Adds lines to the log. -/
def note (walk : Walk) (lines : List LogLine) : Walk := { walk with log := walk.log ++ lines }

/-- Composes one method, unless the walk has ended. -/
def compose (uri : String) (segments : List Segment) (walk : Walk) (method : Method) : Walk :=
  if walk.failure.isSome then walk
  else
    let composed := method.handlerAt uri segments
    let walk := walk.note composed.log
    match composed.result with
    | .error failure => { walk with failure := some failure }
    | .ok handler =>
      let lines := (walk.scaffold.replacement? handler).toList.map (⟨.debug, ·⟩)
      { walk with scaffold := walk.scaffold.add handler }.note lines

/-- The line about a resource. -/
def visitLine (uri : String) (methods children : Nat) : LogLine :=
  ⟨.debug, "Visiting " ++ uri ++ " (" ++ toString methods ++ " methods, " ++ toString children
    ++ " children)"⟩

mutual

/-- **Walks a resource** below a path: its methods, then its children. -/
def visit (uri : String) (segments : List Segment) : Resource → Walk → Walk
  | .mk relative own methods children, walk =>
    if walk.failure.isSome then walk
    else
      let uri := uri ++ relative
      let segments := segments ++ own
      let walk := walk.note [visitLine uri methods.length children.length]
      visitAll uri segments children (methods.foldl (compose uri segments) walk)

/-- Walks resources below a path, one after the other. -/
def visitAll (uri : String) (segments : List Segment) : List Resource → Walk → Walk
  | [], walk => walk
  | resource :: rest, walk => visitAll uri segments rest (visit uri segments resource walk)

end

/-- The outcome of a walk: what was collected, unless a failure ended it. -/
def outcome (walk : Walk) : Logged Scaffold where
  log := walk.log
  result := match walk.failure with
    | some failure => .error failure
    | none => .ok walk.scaffold

end Walk

/-- **The routes and models of an API.** -/
def Api.collect (api : Api) : Logged Scaffold := do
  let scaffold ← (Walk.visitAll "" [] api.resources {}).outcome
  Logged.info ("Composed " ++ toString scaffold.fragments.length ++ " route fragments and "
    ++ toString scaffold.models.size ++ " schemas")
  Logged.debug ("Schemas: " ++ Text.quotedList scaffold.models.keys)
  return scaffold

end RamlExpress
