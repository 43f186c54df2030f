import Mathlib.Tactic.Common

/-!
# JSON values

`serde_json::Value` with the accessors the engine uses.  An object is the list
of its members in serialization order.  Numbers are exact.
-/

namespace OpenPinch

/-- `serde_json::Value`. -/
inductive Json where
  | null
  | bool (value : Bool)
  | num (value : Rat)
  | str (value : String)
  | arr (items : List Json)
  | obj (members : List (String × Json))

namespace Json

/-- `Value::get` with a string index: nothing on a value that is no object. -/
def get? : Json → String → Option Json
  | .obj members, key => (members.find? fun member => member.1 == key).map Prod.snd
  | _, _ => none

/-- `Value::as_str`. -/
def asStr? : Json → Option String
  | .str value => some value
  | _ => none

/-- `Value::as_bool`. -/
def asBool? : Json → Option Bool
  | .bool value => some value
  | _ => none

/-- `Value::as_object`. -/
def asObject? : Json → Option (List (String × Json))
  | .obj members => some members
  | _ => none

/-- The values of the named fields, as a derived `Deserialize` finds them: each
once among the members of an object, or in order in an array. -/
def fields? (names : List String) : Json → Option (List Json)
  | .obj members => names.mapM fun name =>
      match members.filter fun member => member.1 == name with
      | [member] => some member.2
      | _ => none
  | .arr items => if items.length = names.length then some items else none
  | _ => none

mutual

/-- Equality of values, `==` of `serde_json::Value`. -/
def same : Json → Json → Bool
  | .null, .null => true
  | .bool a, .bool b => a == b
  | .num a, .num b => a == b
  | .str a, .str b => a == b
  | .arr as, .arr bs => sameItems as bs
  | .obj as, .obj bs => sameMembers as bs
  | _, _ => false

/-- Equality of the items of two arrays. -/
def sameItems : List Json → List Json → Bool
  | [], [] => true
  | a :: as, b :: bs => same a b && sameItems as bs
  | _, _ => false

/-- Equality of the members of two objects. -/
def sameMembers : List (String × Json) → List (String × Json) → Bool
  | [], [] => true
  | (k, a) :: as, (l, b) :: bs => k == l && same a b && sameMembers as bs
  | _, _ => false

end

end Json

end OpenPinch
