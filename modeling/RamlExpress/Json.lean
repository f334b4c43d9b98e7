import RamlExpress.Number
import RamlExpress.OrderedMap

/-!
# Json — JSON values

The members of an object stand in a list, in the order of the text.  A value that was read has no
name twice in an object; a value made from a YAML document may, and is then written as it stands.
-/

namespace RamlExpress

/-- A JSON value. -/
inductive Json where
  | null
  | bool (value : Bool)
  | number (value : Number)
  | string (value : String)
  | array (items : List Json)
  | object (members : List (String × Json))
deriving Repr, BEq, Inhabited

namespace Json

/-- The member of an object under a name. -/
def get? (name : String) : Json → Option Json
  | object members => members.lookup name
  | _ => none

/-- The text of a string. -/
def string? : Json → Option String
  | string value => some value
  | _ => none

/-- The truth value of a boolean. -/
def bool? : Json → Option Bool
  | bool value => some value
  | _ => none

/-- The items of an array. -/
def items? : Json → Option (List Json)
  | array items => some items
  | _ => none

/-- The members of an object. -/
def members? : Json → Option (List (String × Json))
  | object members => some members
  | _ => none

mutual

/-- Merges repeated names: the first place, the last value, at every depth. -/
def merged : Json → Json
  | array items => array (mergedItems items)
  | object members => object (mergedMembers [] members)
  | value => value

/-- Merges repeated names in each item of a list. -/
def mergedItems : List Json → List Json
  | [] => []
  | item :: rest => merged item :: mergedItems rest

/-- Puts the remaining members one after the other into those already `done`. -/
def mergedMembers (done : List (String × Json)) :
    List (String × Json) → List (String × Json)
  | [] => done
  | (name, value) :: rest => mergedMembers (putEntry name (merged value) done) rest

end

end Json

end RamlExpress
