import DeckFilter.Double

/-!
# The fewest digits that read back

The text of a number shows a decimal that lies closer to it than to any other number. Among these
it takes one with the fewest digits, and of those the nearest to the number.

* `Double.Digits`: a decimal `digits * 10 ^ exponent`;
* `Double.shortest`: the decimal of a number;
* `Double.Layout`, `Double.Digits.render`: how a decimal is laid out in text.
-/

namespace DeckFilter

namespace Double

/-- The decimal `digits * 10 ^ exponent`. -/
structure Digits where
  digits : Nat
  exponent : Int
  deriving DecidableEq, Repr

/-! ## The interval of reals that round to a number -/

/-- Integers `a` and `b` such that `d * 10 ^ s` compares with `x * 2 ^ q` as `d * a` with
`x * b`. -/
def commonScale (q s : Int) : Nat × Nat :=
  (Nat.pow 10 s.toNat <<< (-q).toNat, Nat.pow 10 (-s).toNat <<< q.toNat)

/-- The gap below a power of two is half the gap above it, save at the foot of the format. -/
def quarterBelow (x : Double) : Nat :=
  if x.fraction.val = 0 ∧ 1 < x.exponent.val then 1 else 2

/-- The multiple `d` of `10 ^ s` rounds to `x`; the ends belong to the interval when the
significand is even. -/
def reads (x : Double) (s : Int) (d : Nat) : Bool :=
  let (a, b) := commonScale (x.scale - 2) s
  let low := (4 * x.significand - x.quarterBelow) * b
  let high := (4 * x.significand + 2) * b
  if x.significand % 2 = 0 then decide (low ≤ d * a) && decide (d * a ≤ high)
  else decide (low < d * a) && decide (d * a < high)

/-- The multiple of `10 ^ s` next to `x` that rounds to `x`: of two the nearer, and of two equally
near the even one. -/
def onGrid (x : Double) (s : Int) : Option Nat :=
  let (a, b) := commonScale (x.scale - 2) s
  let value := 4 * x.significand * b
  let low := value / a
  match x.reads s low, x.reads s (low + 1) with
  | false, false => none
  | true, false => some low
  | false, true => some (low + 1)
  | true, true => some (roundHalfEven value a)

/-! ## The search -/

/-- The largest `e` from `top` downwards with `10 ^ e` at most the magnitude, within `fuel`
steps. -/
def leadingExponent (x : Double) : Nat → Int → Int
  | 0, top => top
  | fuel + 1, top =>
    let (a, b) := commonScale x.scale top
    if a ≤ x.significand * b then top else leadingExponent x fuel (top - 1)

/-- The first grid with a hit, from the coarsest of `fuel` grids to the finest. -/
def firstHit (x : Double) : Nat → Int → Digits
  | 0, s => ⟨(x.onGrid s).getD 0, s⟩
  | fuel + 1, s =>
    match x.onGrid s with
    | some d => ⟨d, s⟩
    | none => firstHit x fuel (s - 1)

/-- Trailing zeros go into the exponent, at most `fuel` of them. -/
def dropZeros : Nat → Digits → Digits
  | 0, d => d
  | fuel + 1, d =>
    if d.digits ≠ 0 ∧ d.digits % 10 = 0 then dropZeros fuel ⟨d.digits / 10, d.exponent + 1⟩ else d

/-- The fewest digits that read back as the magnitude of a finite number, the nearest of those. No
number needs more than 17 digits, and the magnitudes run from `10 ^ 308` down to `10 ^ -324`. -/
def shortest (x : Double) : Digits :=
  if x.isZero then ⟨0, 0⟩ else dropZeros 20 (firstHit x 17 (leadingExponent x 640 309))

/-! ## Layout -/

/-- How decimals are laid out: the least exponent of the leading digit that is written without an
exponent part, the least that is written with one again, and the sign of a positive exponent. -/
structure Layout where
  leastPlain : Int
  leastGrown : Int
  plus : String

/-- The decimal digits of a natural number. -/
def numeral (n : Nat) : List Char := Nat.toDigits 10 n

/-- Lay out a decimal: a point is always written in plain notation, and in exponent notation only
between two digits. -/
def Digits.render (l : Layout) (d : Digits) : String :=
  let ds := numeral d.digits
  let lead : Int := ds.length - 1 + d.exponent
  if l.leastPlain ≤ lead ∧ lead < l.leastGrown then
    if 0 ≤ d.exponent then
      String.ofList (ds ++ List.replicate d.exponent.toNat '0' ++ ['.', '0'])
    else if 0 ≤ lead then
      String.ofList (ds.take (lead.toNat + 1) ++ '.' :: ds.drop (lead.toNat + 1))
    else
      String.ofList ('0' :: '.' :: List.replicate ((-lead).toNat - 1) '0' ++ ds)
  else
    let power := (if 0 ≤ lead then l.plus else "-") ++ String.ofList (numeral lead.natAbs)
    match ds with
    | [c] => String.ofList [c] ++ "e" ++ power
    | ds => String.ofList (ds.take 1 ++ '.' :: ds.drop 1) ++ "e" ++ power

/-- The text of a finite number. -/
def render (l : Layout) (x : Double) : String :=
  (if x.negative then "-" else "") ++ x.shortest.render l

end Double

end DeckFilter
