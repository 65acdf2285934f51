/-!
# Digits

* `Text.digits`, `Text.ofDigits`: a run of decimal digits and the number it writes;
* `Text.numeral?`: a number with an optional plus sign;
* `Text.hexValue`: a hexadecimal digit.
-/

namespace DeckFilter.Text

/-- The longest run of decimal digits, and what follows it. -/
def digits (cs : List Char) : List Nat × List Char :=
  ((cs.takeWhile Char.isDigit).map fun c => c.toNat - '0'.toNat, cs.dropWhile Char.isDigit)

/-- The number that a run of digits writes. -/
def ofDigits (radix : Nat) (ds : List Nat) : Nat := ds.foldl (fun n d => n * radix + d) 0

/-- The text after a plus sign, if there is one. -/
def dropPlus : List Char → List Char
  | '+' :: cs => cs
  | cs => cs

/-- The number of a text of decimal digits after at most one plus sign. -/
def numeral? (cs : List Char) : Option Nat :=
  match digits (dropPlus cs) with
  | ([], _) => none
  | (ds, []) => some (ofDigits 10 ds)
  | _ => none

/-- The value of a hexadecimal digit. -/
def hexValue (c : Char) : Option Nat :=
  if '0' ≤ c ∧ c ≤ '9' then some (c.toNat - '0'.toNat)
  else if 'a' ≤ c ∧ c ≤ 'f' then some (c.toNat - 'a'.toNat + 10)
  else if 'A' ≤ c ∧ c ≤ 'F' then some (c.toNat - 'A'.toNat + 10)
  else none

end DeckFilter.Text
