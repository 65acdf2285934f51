import DeckFilter.Json
import DeckFilter.Text.Digits

/-!
# Reading JSON

The text is that of RFC 8259 and nothing more: four blanks, no leading zeros, no control characters
in strings, surrogate escapes in pairs only, and nothing after the value. Arrays and objects nest at
most `nestingLimit` deep.

* `Json.Literal`, `Json.literal`, `Json.Literal.number?`: numbers;
* `Json.unquote`: the rest of a string after its opening quote;
* `Json.value`, `Json.parse?`, `Json.ofBytes?`: values.
-/

namespace DeckFilter

namespace Json

/-- Blank, tab, line feed and carriage return separate tokens. -/
def isBlank (c : Char) : Bool := c == ' ' || c == '\t' || c == '\n' || c == '\r'

/-- What follows the blanks. -/
def skipBlanks (cs : List Char) : List Char := cs.dropWhile isBlank

/-! ## Numbers -/

/-- A number as it is spelt: its sign, its digits before the point, those after it, and its
exponent. -/
structure Literal where
  negative : Bool
  whole : List Nat
  fraction : Option (List Nat)
  exponent : Option Int

/-- A run of digits with at least one. -/
def someDigits (cs : List Char) : Option (List Nat × List Char) :=
  match Text.digits cs with
  | ([], _) => none
  | (ds, rest) => some (ds, rest)

/-- The digits before the point: a zero stands alone. -/
def wholeDigits (cs : List Char) : Option (List Nat × List Char) :=
  match Text.digits cs with
  | ([], _) => none
  | (0 :: _ :: _, _) => none
  | (ds, rest) => some (ds, rest)

/-- The digits after the point, if there is one. -/
def fractionDigits : List Char → Option (Option (List Nat) × List Char)
  | '.' :: cs => (someDigits cs).map fun (ds, rest) => (some ds, rest)
  | cs => some (none, cs)

/-- The exponent after its letter. -/
def signedDigits : List Char → Option (Int × List Char)
  | '+' :: cs => (someDigits cs).map fun (ds, rest) => ((Text.ofDigits 10 ds : Int), rest)
  | '-' :: cs => (someDigits cs).map fun (ds, rest) => (-(Text.ofDigits 10 ds : Int), rest)
  | cs => (someDigits cs).map fun (ds, rest) => ((Text.ofDigits 10 ds : Int), rest)

/-- The exponent, if there is one. -/
def exponentPart : List Char → Option (Option Int × List Char)
  | 'e' :: cs => (signedDigits cs).map fun (e, rest) => (some e, rest)
  | 'E' :: cs => (signedDigits cs).map fun (e, rest) => (some e, rest)
  | cs => some (none, cs)

/-- The digits, the fraction and the exponent after the sign. -/
def unsignedLiteral (negative : Bool) (cs : List Char) : Option (Literal × List Char) := do
  let (whole, cs) ← wholeDigits cs
  let (fraction, cs) ← fractionDigits cs
  let (exponent, cs) ← exponentPart cs
  some (⟨negative, whole, fraction, exponent⟩, cs)

/-- A number as it is spelt. -/
def literal : List Char → Option (Literal × List Char)
  | '-' :: cs => unsignedLiteral true cs
  | cs => unsignedLiteral false cs

/-- Read digits on to `n` while the result fits in 64 bits, and give the digits left over. -/
def absorb (n : Nat) : List Nat → Nat × List Nat
  | [] => (n, [])
  | d :: ds => if n * 10 + d < UInt64.size then absorb (n * 10 + d) ds else (n, d :: ds)

/-- Divide by `10 ^ n`, by at most `10 ^ 308` at a time, until nothing is left. -/
def scaleDown (x : Double) (n : Nat) : Double :=
  if h : n ≤ 308 then x.div (Double.powTen n)
  else if x.isZero then x
  else scaleDown (x.div (Double.powTen 308)) (n - 308)
termination_by n

/-- The number `significand * 10 ^ exponent`, rounded when the significand is taken and again when
it is scaled; none when it is too large. -/
def scaled (significand : Nat) (exponent : Int) : Option Double :=
  let x := Double.ofNat significand
  if exponent < 0 then some (scaleDown x exponent.natAbs)
  else if x.isZero then some x
  else if 308 < exponent then none
  else
    let y := x.mul (Double.powTen exponent.toNat)
    if y.isFinite then some y else none

/-- The value of a literal. Digits past the 64-bit significand count before the point as powers of
ten and are dropped after it. A literal without point and exponent is an integer if it fits in 64
bits, and negative zero is a binary64 number. -/
def Literal.number? (l : Literal) : Option Number :=
  let (n, spill) := absorb 0 l.whole
  let inexact (m : Nat) (e : Int) : Option Number :=
    (scaled m e).map fun x => .double (if l.negative then x.neg else x)
  match l.fraction, l.exponent with
  | none, none =>
    if spill ≠ [] then inexact n spill.length
    else if !l.negative then some (.integer n)
    else if n ≠ 0 ∧ 2 * n ≤ UInt64.size then some (.integer (-n))
    else inexact n 0
  | fraction, exponent =>
    let ds := fraction.getD []
    let (m, dropped) := absorb n ds
    inexact m ((spill.length : Int) - (ds.length - dropped.length : Nat) + exponent.getD 0)

/-! ## Strings -/

/-- The value of four hexadecimal digits. -/
def hexQuad (a b c d : Char) : Option Nat := do
  some (Text.ofDigits 16
    [← Text.hexValue a, ← Text.hexValue b, ← Text.hexValue c, ← Text.hexValue d])

/-- The character of a one-letter escape. -/
def shortEscape : Char → Option Char
  | '"' => some '"'
  | '\\' => some '\\'
  | '/' => some '/'
  | 'b' => some '\x08'
  | 'f' => some '\x0c'
  | 'n' => some '\n'
  | 'r' => some '\r'
  | 't' => some '\t'
  | _ => none

/-- The character of a surrogate pair. -/
def ofSurrogates (high low : Nat) : Option Char :=
  if 0xD800 ≤ high ∧ high < 0xDC00 ∧ 0xDC00 ≤ low ∧ low < 0xE000 then
    some (Char.ofNat (0x10000 + (high - 0xD800) * 0x400 + (low - 0xDC00)))
  else none

/-- The character of an escape that is no surrogate. -/
def ofUnit (n : Nat) : Option Char :=
  if 0xD800 ≤ n ∧ n < 0xE000 then none else some (Char.ofNat n)

/-- The characters up to the closing quote, and what follows it. -/
def unquote : List Char → Option (List Char × List Char)
  | [] => none
  | '"' :: cs => some ([], cs)
  | '\\' :: 'u' :: a :: b :: c :: d :: cs =>
    match (hexQuad a b c d).bind ofUnit with
    | some x => (unquote cs).map fun (s, rest) => (x :: s, rest)
    | none =>
      match cs with
      | '\\' :: 'u' :: e :: f :: g :: h :: cs => do
        let x ← ofSurrogates (← hexQuad a b c d) (← hexQuad e f g h)
        let (s, rest) ← unquote cs
        some (x :: s, rest)
      | _ => none
  | '\\' :: c :: cs => do
    let x ← shortEscape c
    let (s, rest) ← unquote cs
    some (x :: s, rest)
  | c :: cs => if c.toNat < 32 then none else (unquote cs).map fun (s, rest) => (c :: s, rest)

/-! ## Values -/

/-- At most `n` items of an array from the first one on, each read by `item`, and what follows the
closing bracket. -/
def items (item : List Char → Option (Json × List Char)) :
    (n : Nat) → List Char → Option (List Json × List Char)
  | 0, _ => none
  | n + 1, cs => do
    let (v, cs) ← item cs
    match skipBlanks cs with
    | ',' :: cs =>
      let (vs, rest) ← items item n cs
      some (v :: vs, rest)
    | ']' :: rest => some ([v], rest)
    | _ => none

/-- At most `n` members of an object from the first one on, as they are written, and what follows
the closing brace. -/
def members (item : List Char → Option (Json × List Char)) :
    (n : Nat) → List Char → Option (List (String × Json) × List Char)
  | 0, _ => none
  | n + 1, cs =>
    match skipBlanks cs with
    | '"' :: cs => do
      let (k, cs) ← unquote cs
      match skipBlanks cs with
      | ':' :: cs =>
        let (v, cs) ← item cs
        match skipBlanks cs with
        | ',' :: cs =>
          let (ms, rest) ← members item n cs
          some ((String.ofList k, v) :: ms, rest)
        | '\x7d' :: rest => some ([(String.ofList k, v)], rest)
        | _ => none
      | _ => none
    | _ => none

/-- The array of at most `n` items after its opening bracket. -/
def arrayRest (item : List Char → Option (Json × List Char)) (n : Nat) (cs : List Char) :
    Option (Json × List Char) :=
  match skipBlanks cs with
  | ']' :: rest => some (array [], rest)
  | _ => (items item n cs).map fun (vs, rest) => (array vs, rest)

/-- The object of at most `n` members after its opening brace. -/
def objectRest (item : List Char → Option (Json × List Char)) (n : Nat) (cs : List Char) :
    Option (Json × List Char) :=
  match skipBlanks cs with
  | '\x7d' :: rest => some (object [], rest)
  | _ => (members item n cs).map fun (ms, rest) => (ofMembers ms, rest)

/-- A value that is no array and no object. -/
def scalar : List Char → Option (Json × List Char)
  | 'n' :: 'u' :: 'l' :: 'l' :: rest => some (null, rest)
  | 't' :: 'r' :: 'u' :: 'e' :: rest => some (bool true, rest)
  | 'f' :: 'a' :: 'l' :: 's' :: 'e' :: rest => some (bool false, rest)
  | '"' :: cs => (unquote cs).map fun (s, rest) => (string (String.ofList s), rest)
  | cs => do
    let (l, rest) ← literal cs
    some (number (← l.number?), rest)

/-- A value that nests at most `depth` deep, with at most `n` items or members in a row, and what
follows it. -/
def value (n : Nat) : (depth : Nat) → List Char → Option (Json × List Char)
  | 0, cs => scalar (skipBlanks cs)
  | depth + 1, cs =>
    match skipBlanks cs with
    | '[' :: cs => arrayRest (value n depth) n cs
    | '\x7b' :: cs => objectRest (value n depth) n cs
    | cs => scalar cs

/-- How deep arrays and objects may nest in a text. -/
def nestingLimit : Nat := 127

/-- The value of a text. There are no more items than characters. -/
def parse? (s : String) : Option Json :=
  let cs := s.toList
  match value cs.length nestingLimit cs with
  | some (v, rest) => if (skipBlanks rest).isEmpty then some v else none
  | none => none

/-- The value of a text in UTF-8. -/
def ofBytes? (bytes : ByteArray) : Option Json := (String.fromUTF8? bytes).bind parse?

end Json

end DeckFilter
