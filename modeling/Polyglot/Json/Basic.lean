import Polyglot.Json.Binary64

/-! JSON values. Whole numbers are kept apart from floating point ones. -/

namespace Polyglot

/-- A JSON value. -/
inductive Json where
  | null
  | bool (b : Bool)
  | int (n : Int)
  | float (x : Binary64)
  | string (s : String)
  | array (elements : List Json)
  | object (fields : List (String × Json))
deriving Repr, Inhabited

namespace Json

/-- The field of an object; none if the value is no object or does not have it. -/
def field? (j : Json) (key : String) : Option Json :=
  match j with
  | .object fields => fields.lookup key
  | _ => none

/-- A string or null. -/
def ofString? : Option String → Json
  | some s => .string s
  | none => .null

/-- A whole number. -/
def ofNat (n : Nat) : Json := .int n

/-- Puts a field into an object whose keys are in order, in place of one that is there. -/
def insertField (key : String) (value : Json) : List (String × Json) → List (String × Json)
  | [] => [(key, value)]
  | (k, v) :: r =>
    if key < k then (key, value) :: (k, v) :: r
    else if key = k then (key, value) :: r
    else (k, v) :: insertField key value r

end Json

end Polyglot
