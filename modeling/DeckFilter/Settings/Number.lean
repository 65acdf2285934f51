import DeckFilter.Double
import DeckFilter.Settings
import DeckFilter.Text.Digits

/-!
# Texts that mean a number

Without quotes such a text would be taken for a number by a reader that looks for one.

* `Settings.isRadixNumber`: hexadecimal, octal and binary integers;
* `Settings.isDecimalNumber`: decimal numbers;
* `Settings.isNumber`: these, infinities and what is no number.
-/

namespace DeckFilter.Settings

/-- The number that digits of a radix write; there is at least one. -/
def digitsOf? (radix : Nat) (cs : List Char) : Option Nat := do
  let ds ← cs.mapM fun c => (Text.hexValue c).filter (· < radix)
  if ds.isEmpty then none else some (Text.ofDigits radix ds)

/-- The number of a text that names its radix. -/
def radixNumber? : List Char → Option Nat
  | '0' :: 'x' :: cs => digitsOf? 16 cs
  | '0' :: 'o' :: cs => digitsOf? 8 cs
  | '0' :: 'b' :: cs => digitsOf? 2 cs
  | _ => none

/-- An integer that names its radix and fits in 128 bits. -/
def isRadixNumber : List Char → Bool
  | '-' :: cs => (radixNumber? cs).any (· ≤ 1 <<< 127)
  | cs => (radixNumber? (Text.dropPlus cs)).any (· < 1 <<< 128)

/-- The exponent of a decimal number: none means that the text is no exponent. -/
def exponent? : List Char → Option Int
  | [] => some 0
  | e :: cs =>
    if e = 'e' ∨ e = 'E' then
      match cs with
      | '-' :: rest =>
        match Text.digits rest with
        | (d :: ds, []) => some (-(Text.ofDigits 10 (d :: ds) : Int))
        | _ => none
      | _ => (Text.numeral? cs).map (Int.ofNat ·)
    else none

/-- A decimal number without a sign that is not too large: digits, a point that may stand anywhere
among them, and an exponent. -/
def isUnsignedDecimal (cs : List Char) : Bool :=
  let (whole, rest) := Text.digits cs
  let (fraction, rest) := match rest with
    | '.' :: rest => Text.digits rest
    | rest => ([], rest)
  match whole ++ fraction, exponent? rest with
  | [], _ => false
  | _, none => false
  | ds, some e => Double.isFiniteDecimal (Text.ofDigits 10 ds) (e - fraction.length)

/-- A decimal number that is not too large. -/
def isDecimalNumber : List Char → Bool
  | '-' :: cs => isUnsignedDecimal cs
  | cs => isUnsignedDecimal (Text.dropPlus cs)

/-- Decimal digits of which the first of several is zero, after an optional sign. -/
def isPaddedNumeral (cs : List Char) : Bool :=
  let digits := match cs with
    | '-' :: rest => rest
    | '+' :: rest => rest
    | rest => rest
  match digits with
  | '0' :: d :: ds => (d :: ds).all Char.isDigit
  | _ => false

/-- The spellings of infinity and of what is no number. -/
def specialNumbers : List String :=
  [".inf", ".Inf", ".INF", "+.inf", "+.Inf", "+.INF", "-.inf", "-.Inf", "-.INF",
    ".nan", ".NaN", ".NAN"]

/-- A text that would be taken for a number, or nearly so. -/
def isNumber (s : String) : Bool :=
  specialNumbers.contains s || isRadixNumber s.toList || isDecimalNumber s.toList ||
    isPaddedNumeral s.toList

end DeckFilter.Settings
