import DeckFilter.Json
import DeckFilter.Double.Shortest

/-!
# Writing JSON

A value is written without any blanks, an object in the order of its members. A string escapes the
quote, the backslash and the control characters below the blank, and nothing else.

* `Json.escape`, `Json.quote`: strings;
* `Json.Number.text`: numbers;
* `Json.chars`, `Json.text`: values.
-/

namespace DeckFilter

namespace Json

/-- A hexadecimal digit in lower case. -/
def hexDigit (n : Nat) : Char := (Nat.digitChar (n % 16))

/-- A character of a string as it is written. -/
def escape (c : Char) : List Char :=
  if c = '"' then ['\\', '"']
  else if c = '\\' then ['\\', '\\']
  else if c = '\x08' then ['\\', 'b']
  else if c = '\t' then ['\\', 't']
  else if c = '\n' then ['\\', 'n']
  else if c = '\x0c' then ['\\', 'f']
  else if c = '\r' then ['\\', 'r']
  else if c.toNat < 32 then ['\\', 'u', '0', '0', hexDigit (c.toNat / 16), hexDigit c.toNat]
  else [c]

/-- A string between quotes. -/
def quote (s : String) : List Char := '"' :: s.toList.flatMap escape ++ ['"']

/-- Plain notation from `0.00001` up to below `10 ^ 16`, and a sign on every exponent. -/
def numberLayout : Double.Layout := ⟨-5, 16, "+"⟩

/-- The text of a number. -/
def Number.text : Number → String
  | .integer n => if n < 0 then "-" ++ toString n.natAbs else toString n.natAbs
  | .double x => x.render numberLayout

mutual

/-- The characters of a value. -/
def chars : Json → List Char
  | null => ['n', 'u', 'l', 'l']
  | bool true => ['t', 'r', 'u', 'e']
  | bool false => ['f', 'a', 'l', 's', 'e']
  | number n => n.text.toList
  | string s => quote s
  | array items => '[' :: charsItems items
  | object members => '\x7b' :: charsMembers members

/-- The items of an array and its closing bracket. -/
def charsItems : List Json → List Char
  | [] => [']']
  | [v] => chars v ++ [']']
  | v :: rest => chars v ++ ',' :: charsItems rest

/-- The members of an object and its closing brace. -/
def charsMembers : List (String × Json) → List Char
  | [] => ['\x7d']
  | [(k, v)] => quote k ++ ':' :: chars v ++ ['\x7d']
  | (k, v) :: rest => quote k ++ ':' :: chars v ++ ',' :: charsMembers rest

end

/-- The text of a value. -/
def text (v : Json) : String := String.ofList v.chars

end Json

end DeckFilter
