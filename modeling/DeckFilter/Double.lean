/-!
# Binary64 numbers

A column width is a binary64 number. It is kept by its three fields, and its arithmetic is exact
arithmetic on natural numbers followed by one rounding, so every step can be computed and reasoned
about without a machine float.

* `Double`, `Double.significand`, `Double.scale`: the fields, and the integers `m` and `q` whose
  `m * 2 ^ q` is the magnitude;
* `Double.nearest`: the number nearest to a quotient, a tie going to the even significand;
* `Double.ofNat`, `Double.mul`, `Double.div`: operations that round once.
-/

namespace DeckFilter

/-- A binary64 number: its sign, its biased exponent and its fraction. -/
structure Double where
  negative : Bool
  exponent : Fin 2048
  fraction : Fin (1 <<< 52)
  deriving DecidableEq, Repr

namespace Double

/-- Infinities and NaNs have the largest exponent. -/
def isFinite (x : Double) : Bool := decide (x.exponent.val < 2047)

/-- Zero of either sign. -/
def isZero (x : Double) : Bool := decide (x.exponent.val = 0) && decide (x.fraction.val = 0)

/-- The integer `m` of the magnitude `m * 2 ^ q`. -/
def significand (x : Double) : Nat :=
  if x.exponent.val = 0 then x.fraction.val else (1 <<< 52) + x.fraction.val

/-- The exponent `q` of the magnitude `m * 2 ^ q`. -/
def scale (x : Double) : Int := (max 1 x.exponent.val : Nat) - 1075

/-- The infinity of a sign. -/
def infinity (negative : Bool) : Double := ⟨negative, ⟨2047, by decide⟩, ⟨0, by decide⟩⟩

/-- The same magnitude with the other sign. -/
def neg (x : Double) : Double := { x with negative := !x.negative }

/-- The magnitudes in ascending order, counted from zero: the exponent and the fraction read as one
number. Anything past the last finite magnitude is infinite. -/
def ofRank (negative : Bool) (rank : Nat) : Double :=
  if h : rank < 2047 <<< 52 then
    ⟨negative, ⟨rank >>> 52, by omega⟩, ⟨rank % (1 <<< 52), Nat.mod_lt _ (by decide)⟩⟩
  else infinity negative

/-! ## Rounding -/

/-- The integer nearest to `num / den`, a half going to the even neighbour. -/
def roundHalfEven (num den : Nat) : Nat :=
  let low := num / den
  let twice := 2 * (num % den)
  if twice < den then low
  else if den < twice then low + 1
  else if low % 2 = 0 then low else low + 1

/-- The integer nearest to `num / den / 2 ^ q`. -/
def roundAt (num den : Nat) (q : Int) : Nat :=
  roundHalfEven (num <<< (-q).toNat) (den <<< q.toNat)

/-- The power of two that leaves `num / den` a 53-bit integer part, and no less than the smallest
step of the format. -/
def step (num den : Nat) : Int :=
  let q : Int := (Nat.log2 num : Int) - Nat.log2 den - 53
  let wide := decide (den <<< q.toNat <<< 53 ≤ num <<< (-q).toNat)
  max (-1074) (if wide then q + 1 else q)

/-- The number nearest to `num / den`, for `den` positive. -/
def nearest (negative : Bool) (num den : Nat) : Double :=
  if num = 0 then ofRank negative 0
  else
    let q := step num den
    ofRank negative ((q + 1074).toNat <<< 52 + roundAt num den q)

/-! ## Arithmetic -/

/-- The number nearest to a natural number. -/
def ofNat (n : Nat) : Double := nearest false n 1

/-- The number nearest to an integer. -/
def ofInt (n : Int) : Double := nearest (decide (n < 0)) n.natAbs 1

/-- The rounded product of two finite numbers. -/
def mul (x y : Double) : Double :=
  let q := x.scale + y.scale
  nearest (x.negative != y.negative) ((x.significand * y.significand) <<< q.toNat)
    (1 <<< (-q).toNat)

/-- The rounded quotient of two finite numbers, the divisor not zero. -/
def div (x y : Double) : Double :=
  let q := x.scale - y.scale
  nearest (x.negative != y.negative) (x.significand <<< q.toNat) (y.significand <<< (-q).toNat)

/-- The number nearest to a power of ten. -/
def powTen (k : Nat) : Double := ofNat (Nat.pow 10 k)

/-- The magnitude nearest to `m * 10 ^ e` is finite. The largest finite one has 309 digits, so only
about there the number has to be rounded. -/
def isFiniteDecimal (m : Nat) (e : Int) : Bool :=
  let size : Int := (Nat.toDigits 10 m).length + e
  if m = 0 || size < 309 then true
  else if 309 < size then false
  else (nearest false (m * Nat.pow 10 e.toNat) (Nat.pow 10 (-e).toNat)).isFinite

end Double

end DeckFilter
