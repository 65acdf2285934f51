import DeckFilter.Double

/-!
# JSON values

* `Json`, `Json.Number`: the values; integers and binary64 numbers are kept apart, and the members
  of an object are a list in ascending order of their keys;
* `Json.find?`: the member of a key;
* `Json.insert`, `Json.ofMembers`: objects keep one member per key, the last one written;
* `Json.depth`: how deep arrays and objects nest.
-/

namespace DeckFilter

/-- A number: an integer written without point and exponent, or a binary64 number. -/
inductive Json.Number where
  | integer (n : Int)
  | double (x : Double)
  deriving DecidableEq, Repr

/-- A JSON value. -/
inductive Json where
  | null
  | bool (b : Bool)
  | number (n : Json.Number)
  | string (s : String)
  | array (items : List Json)
  | object (members : List (String × Json))

namespace Json

/-- The member of a key. -/
def find? (key : String) : List (String × Json) → Option Json
  | [] => none
  | (k, v) :: rest => if k = key then some v else find? key rest

/-- Put a member at its place in ascending key order; it replaces one of the same key. -/
def insert (key : String) (value : Json) : List (String × Json) → List (String × Json)
  | [] => [(key, value)]
  | (k, v) :: rest =>
    if key = k then (key, value) :: rest
    else if key < k then (key, value) :: (k, v) :: rest
    else (k, v) :: insert key value rest

/-- The object of a list of members as they are written: of a key written twice, the last wins. -/
def ofMembers (members : List (String × Json)) : Json :=
  object (members.foldl (fun ms m => insert m.1 m.2 ms) [])

mutual

/-- How deep arrays and objects nest in a value. -/
def depth : Json → Nat
  | array items => 1 + depthItems items
  | object members => 1 + depthMembers members
  | _ => 0

/-- The depth of the deepest item. -/
def depthItems : List Json → Nat
  | [] => 0
  | v :: rest => max (depth v) (depthItems rest)

/-- The depth of the deepest member. -/
def depthMembers : List (String × Json) → Nat
  | [] => 0
  | (_, v) :: rest => max (depth v) (depthMembers rest)

end

end Json

end DeckFilter
