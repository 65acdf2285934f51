import DeckFilter.Document.DecodeError
import DeckFilter.Json

/-!
# Shapes of JSON values

* `asObject`, `asMap`, `asArray`, `asString`, `asBool`, `asInteger`, `asUnsigned`, `asWidth`: values
  of one kind;
* `asPair`, … `asSextuple`: arrays of a fixed size;
* `member`, `asTagged`, `contentOf`, `asOneOf`: members of objects.
-/

namespace DeckFilter

/-- The members of an object. -/
def asObject (what : String) : Json → Decoded (List (String × Json))
  | .object members => .ok members
  | _ => unmet (.object what)

/-- The members of a map. -/
def asMap (what : String) : Json → Decoded (List (String × Json))
  | .object members => .ok members
  | _ => unmet (.map what)

/-- The items of an array. -/
def asArray (what : String) : Json → Decoded (List Json)
  | .array items => .ok items
  | _ => unmet (.array what)

/-- A string. -/
def asString (what : String) : Json → Decoded String
  | .string s => .ok s
  | _ => unmet (.string what)

/-- A boolean. -/
def asBool (what : String) : Json → Decoded Bool
  | .bool b => .ok b
  | _ => unmet (.boolean what)

/-- A signed 64-bit integer. -/
def asInteger (what : String) : Json → Decoded Int64
  | .number (.integer n) =>
    if Int64.minValue.toInt ≤ n ∧ n ≤ Int64.maxValue.toInt then .ok (Int64.ofInt n)
    else unmet (.integer what)
  | _ => unmet (.integer what)

/-- An unsigned 64-bit integer. -/
def asUnsigned (expected : Expectation) : Json → Decoded UInt64
  | .number (.integer n) =>
    if 0 ≤ n ∧ n < UInt64.size then .ok (UInt64.ofNat n.toNat) else unmet expected
  | _ => unmet expected

/-- A number of any kind. -/
def asWidth : Json → Decoded Double
  | .number (.integer n) => .ok (Double.ofInt n)
  | .number (.double x) => .ok x
  | _ => unmet .columnWidth

/-- An array of two. -/
def asPair (what : String) : Json → Decoded (Json × Json)
  | .array [a, b] => .ok (a, b)
  | .array _ => unmet (.size what 2)
  | _ => unmet (.tuple what)

/-- An array of three. -/
def asTriple (what : String) : Json → Decoded (Json × Json × Json)
  | .array [a, b, c] => .ok (a, b, c)
  | .array _ => unmet (.size what 3)
  | _ => unmet (.tuple what)

/-- An array of four. -/
def asQuadruple (what : String) : Json → Decoded (Json × Json × Json × Json)
  | .array [a, b, c, d] => .ok (a, b, c, d)
  | .array _ => unmet (.size what 4)
  | _ => unmet (.tuple what)

/-- An array of five. -/
def asQuintuple (what : String) : Json → Decoded (Json × Json × Json × Json × Json)
  | .array [a, b, c, d, e] => .ok (a, b, c, d, e)
  | .array _ => unmet (.size what 5)
  | _ => unmet (.tuple what)

/-- An array of six. -/
def asSextuple (what : String) : Json → Decoded (Json × Json × Json × Json × Json × Json)
  | .array [a, b, c, d, e, f] => .ok (a, b, c, d, e, f)
  | .array _ => unmet (.size what 6)
  | _ => unmet (.tuple what)

/-- A member that has to be there. -/
def member (name : String) (members : List (String × Json)) : Decoded Json :=
  match Json.find? name members with
  | some v => .ok v
  | none => .error (.missing name)

/-- The tag of a node, and its content if it has any. -/
def asTagged (what : String) (v : Json) : Decoded (String × Option Json) := do
  let members ← asObject what v
  match Json.find? "t" members with
  | some (.string tag) => .ok (tag, Json.find? "c" members)
  | _ => .error (.missing s!"t in {what}")

/-- The content of a node that has to have some. -/
def contentOf (tag : String) : Option Json → Decoded Json
  | some c => .ok c
  | none => .error (.missing s!"c in {tag}")

/-- One of the values that have the tags of `table`. -/
def asOneOf {α : Type} (what : String) (table : List (String × α)) (v : Json) : Decoded α := do
  let (tag, _) ← asTagged what v
  match table.lookup tag with
  | some x => .ok x
  | none => .error (.unknownTag what tag)

end DeckFilter
